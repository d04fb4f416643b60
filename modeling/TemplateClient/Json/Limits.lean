import TemplateClient.Json.Reader
import TemplateClient.Number.Binary64

/-!
# Values that are kept, and their limits

A value that is kept as it stands, whatever its kind, has to stay within limits that a skipped
value may exceed.

* `Numeral.isFinite` -- the number is finite as a 64-bit float;
* `Json.depth` -- how deep arrays and objects nest;
* `Json.isPlain` -- every string spells a text and every number is finite;
* `Json.isReadable` -- a plain value within a given depth.
-/

namespace TemplateClient.Json

/-! ## 1. Numbers -/

namespace Numeral

/-- The value of a decimal digit. -/
def digitValue (c : Char) : Nat := c.toNat - '0'.toNat

/-- The value of a sequence of decimal digits. -/
def value (digits : List Char) : Nat :=
  digits.foldl (fun n c => n * 10 + digitValue c) 0

/-- The significand of a number is kept in 64 bits. -/
def significandBound : Nat := Nat.pow 2 64

/-- Takes up the digits of the whole part. The first digit that does not fit and all after it are
only counted. -/
def takeWhole (digits : List Char) : Nat × Nat :=
  digits.foldl (fun (n, dropped) c =>
    if dropped = 0 ∧ n * 10 + digitValue c < significandBound then (n * 10 + digitValue c, 0)
    else (n, dropped + 1)) (0, 0)

/-- Takes up the digits of the fraction after the significand `n`, up to the first digit that does
not fit. The second part counts the digits taken. -/
def takeFraction (n taken : Nat) : List Char → Nat × Nat
  | [] => (n, taken)
  | c :: cs =>
    if n * 10 + digitValue c < significandBound then
      takeFraction (n * 10 + digitValue c) (taken + 1) cs
    else (n, taken)

/-- The value of the exponent. -/
def exponentValue (n : Numeral) : Int :=
  match n.exponent with
  | none => 0
  | some e => if e.sign = some '-' then -(value e.digits : Int) else value e.digits

/-- The number is finite as a 64-bit float that is computed from a significand of 64 bits and a
power of ten. -/
def isFinite (n : Numeral) : Bool :=
  let (whole, dropped) := takeWhole n.whole
  let (significand, taken) := takeFraction whole 0 n.fraction
  Binary64.scalesTo significand (dropped - taken + n.exponentValue)

end Numeral

/-! ## 2. Trees -/

mutual

/-- How deep arrays and objects nest; a value that is neither has depth zero. -/
def depth : Json → Nat
  | .array vs => itemsDepth vs + 1
  | .object ms => membersDepth ms + 1
  | _ => 0
  termination_by structural v => v

/-- The depth of the deepest item. -/
def itemsDepth : List Json → Nat
  | [] => 0
  | v :: vs => max (depth v) (itemsDepth vs)
  termination_by structural vs => vs

/-- The depth of the deepest member. -/
def membersDepth : List (Name × Json) → Nat
  | [] => 0
  | m :: ms => max (memberDepth m) (membersDepth ms)
  termination_by structural ms => ms

/-- The depth of a member's value. -/
def memberDepth : Name × Json → Nat
  | (_, v) => depth v
  termination_by structural m => m

end

mutual

/-- Every string in the value spells a text, and every number is finite. -/
def isPlain : Json → Bool
  | .null => true
  | .bool _ => true
  | .number n => n.isFinite
  | .string s => (Piece.text? s).isSome
  | .array vs => allPlain vs
  | .object ms => membersPlain ms
  termination_by structural v => v

/-- Every item is plain. -/
def allPlain : List Json → Bool
  | [] => true
  | v :: vs => isPlain v && allPlain vs
  termination_by structural vs => vs

/-- Every member is plain, its name included. -/
def membersPlain : List (Name × Json) → Bool
  | [] => true
  | m :: ms => memberPlain m && membersPlain ms
  termination_by structural ms => ms

/-- The name spells a text and the value is plain. -/
def memberPlain : Name × Json → Bool
  | (k, v) => (Piece.text? k).isSome && isPlain v
  termination_by structural m => m

end

/-- The deepest nesting in which a kept value may stand, counted from the top of its text. -/
def nestingLimit : Nat := 127

/-- The value may be kept when it stands below `outer` levels of arrays and objects. -/
def isReadable (outer : Nat) (v : Json) : Bool :=
  v.isPlain && v.depth + outer ≤ nestingLimit

end TemplateClient.Json
