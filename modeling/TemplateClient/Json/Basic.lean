/-!
# JSON: trees and tokens

A JSON text is read in two stages, and this module holds the data between them.

* `Piece` -- one piece of a string as written; `Piece.text?` gives the text that the pieces spell;
* `Numeral` -- a number as written;
* `Json` -- a value as a tree that keeps every member in order, repeated names included;
* `Token`, `Json.tokens` -- the sequence of tokens that a tree is written with.

Strings stay as written because a value that nobody looks at may hold an escaped surrogate without
its partner: such a string is well formed, but it spells no text. Only reading it is an error.
-/

namespace TemplateClient.Json

/-! ## 1. Strings as written -/

/-- One piece of a string as written. -/
inductive Piece where
  /-- A character that stands for itself, or that a two-character escape names. -/
  | char (c : Char)
  /-- A UTF-16 unit, written with four hexadecimal digits. -/
  | unit (n : UInt16)
deriving DecidableEq, Repr

namespace Piece

/-- The first half of a surrogate pair. -/
def isHigh (n : UInt16) : Bool := 0xD800 ≤ n.toNat && n.toNat ≤ 0xDBFF

/-- The second half of a surrogate pair. -/
def isLow (n : UInt16) : Bool := 0xDC00 ≤ n.toNat && n.toNat ≤ 0xDFFF

/-- The character that a surrogate pair stands for. -/
def ofPair (high low : UInt16) : Char :=
  Char.ofNat (0x10000 + (high.toNat - 0xD800) * 0x400 + (low.toNat - 0xDC00))

/-- The characters that the pieces spell; none if a surrogate stands without its partner. -/
def chars? : List Piece → Option (List Char)
  | [] => some []
  | .char c :: ps => (chars? ps).map (c :: ·)
  | .unit n :: .unit m :: ps =>
    if isHigh n then
      if isLow m then (chars? ps).map (ofPair n m :: ·) else none
    else if isLow n then none
    else (chars? (.unit m :: ps)).map (Char.ofNat n.toNat :: ·)
  | .unit n :: ps =>
    if isHigh n || isLow n then none else (chars? ps).map (Char.ofNat n.toNat :: ·)

/-- The text that the pieces spell; none if a surrogate stands without its partner. -/
def text? (ps : List Piece) : Option String :=
  (chars? ps).map String.ofList

/-- A text with every character standing for itself. -/
def ofChars (cs : List Char) : List Piece := cs.map .char

end Piece

/-! ## 2. Numbers as written -/

/-- The exponent of a number as written. -/
structure Exponent where
  /-- The letter `e` or `E`. -/
  mark : Char
  /-- The sign, if one is written. -/
  sign : Option Char
  digits : List Char
deriving DecidableEq, Repr

/-- A number as written; a number without a fraction has no digits there. -/
structure Numeral where
  negative : Bool
  whole : List Char
  fraction : List Char
  exponent : Option Exponent
deriving DecidableEq, Repr

namespace Exponent

/-- The characters of the exponent. -/
def chars (e : Exponent) : List Char :=
  e.mark :: (e.sign.toList ++ e.digits)

/-- The grammar of an exponent: its mark, at most one sign, at least one digit. -/
def WellFormed (e : Exponent) : Prop :=
  (e.mark = 'e' ∨ e.mark = 'E') ∧ (∀ s ∈ e.sign, s = '+' ∨ s = '-')
    ∧ e.digits ≠ [] ∧ ∀ c ∈ e.digits, c.isDigit = true

end Exponent

namespace Numeral

/-- The characters of the number. -/
def chars (n : Numeral) : List Char :=
  (if n.negative then ['-'] else []) ++ n.whole
    ++ (if n.fraction = [] then [] else '.' :: n.fraction)
    ++ (n.exponent.map Exponent.chars).getD []

/-- The grammar of a number: the whole part has at least one digit and no idle zero in front. -/
def WellFormed (n : Numeral) : Prop :=
  n.whole ≠ [] ∧ (∀ c ∈ n.whole, c.isDigit = true) ∧ (n.whole.head? = some '0' → n.whole = ['0'])
    ∧ (∀ c ∈ n.fraction, c.isDigit = true) ∧ ∀ e ∈ n.exponent, e.WellFormed

/-- The rest of a number after its whole part. -/
def exponentOfChars? : List Char → Option (Option Exponent)
  | [] => some none
  | m :: cs =>
    if m = 'e' ∨ m = 'E' then
      let sign := cs.head?.filter (fun c => c == '+' || c == '-')
      let digits := cs.drop sign.toList.length
      if digits ≠ [] ∧ digits.all Char.isDigit then some (some ⟨m, sign, digits⟩) else none
    else none

/-- The number that the characters spell, if they spell one and nothing else. -/
def ofChars? (cs : List Char) : Option Numeral :=
  let negative := cs.head? == some '-'
  let cs := if negative then cs.drop 1 else cs
  let whole := cs.takeWhile Char.isDigit
  let rest := cs.dropWhile Char.isDigit
  if whole = [] ∨ (whole.head? = some '0' ∧ whole ≠ ['0']) then none
  else match rest with
    | '.' :: rest =>
      let fraction := rest.takeWhile Char.isDigit
      if fraction = [] then none
      else (exponentOfChars? (rest.dropWhile Char.isDigit)).map (⟨negative, whole, fraction, ·⟩)
    | rest => (exponentOfChars? rest).map (⟨negative, whole, [], ·⟩)

end Numeral

/-! ## 3. Trees -/

/-- The name of a member, as written. -/
abbrev Name := List Piece

end TemplateClient.Json

namespace TemplateClient

/-- A JSON value. Members stay in the order in which they are written, repeated names included. -/
inductive Json where
  | null
  | bool (b : Bool)
  | number (n : Json.Numeral)
  | string (s : List Json.Piece)
  | array (items : List Json)
  | object (members : List (Json.Name × Json))

namespace Json

/-! ## 4. Tokens -/

/-- A token of a JSON text. -/
inductive Token where
  | arrayOpen
  | arrayClose
  | objectOpen
  | objectClose
  | comma
  | colon
  | null
  | bool (b : Bool)
  | number (n : Numeral)
  | string (s : List Piece)
deriving DecidableEq, Repr

mutual

/-- The tokens that a value is written with. -/
def tokens : Json → List Token
  | .null => [.null]
  | .bool b => [.bool b]
  | .number n => [.number n]
  | .string s => [.string s]
  | .array [] => [.arrayOpen, .arrayClose]
  | .array (v :: vs) => .arrayOpen :: (tokens v ++ itemTokens vs ++ [.arrayClose])
  | .object [] => [.objectOpen, .objectClose]
  | .object (m :: ms) => .objectOpen :: (memberTokens m ++ membersTokens ms ++ [.objectClose])
  termination_by structural v => v

/-- The tokens of the items after the first, each with the comma in front of it. -/
def itemTokens : List Json → List Token
  | [] => []
  | v :: vs => .comma :: (tokens v ++ itemTokens vs)
  termination_by structural vs => vs

/-- The tokens of the members after the first, each with the comma in front of it. -/
def membersTokens : List (Name × Json) → List Token
  | [] => []
  | m :: ms => .comma :: (memberTokens m ++ membersTokens ms)
  termination_by structural ms => ms

/-- The tokens of one member. -/
def memberTokens : Name × Json → List Token
  | (k, v) => .string k :: .colon :: tokens v
  termination_by structural m => m

end

end Json

end TemplateClient
