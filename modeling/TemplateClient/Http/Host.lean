import TemplateClient.Number.Hex

/-!
# Hosts

The host of a web address is a number of 32 bits, a number of 128 bits in brackets, or a name. A
text whose last part is a number has to be a number as a whole: one to four parts between points,
each of them decimal, octal after a zero in front, or hexadecimal after `0x`. All parts but the last
stand for a byte each, and the last one for the bytes that are left.

* `Host` -- the three kinds;
* `Host.number?` -- the number of 32 bits that parts spell;
* `Host.groups?` -- the groups of 16 bits that a text in brackets spells;
* `Host.parse?` -- the host that a text without brackets gives.

Percent escapes in the text stand for bytes. How a name with other characters is written in ASCII is
not settled here: the reader takes it as a parameter.
-/

namespace TemplateClient

/-- The host of a web address. -/
inductive Host where
  /-- An address of 32 bits. -/
  | ipv4 (number : Nat)
  /-- An address of 128 bits, in eight groups of 16 bits. -/
  | ipv6 (groups : List Nat)
  | name (name : String)
deriving DecidableEq, Repr

namespace Host

/-! ## 1. Numbers -/

/-- The number that digits of a base spell; no digit at all is no number. -/
def digits? (base : Nat) (cs : List Char) : Option Nat :=
  if cs.isEmpty then none
  else cs.foldlM (fun n c => ((Hex.value? c).filter (· < base)).map (n * base + ·)) 0

/-- The number that a part of an address spells. -/
def part? : List Char → Option Nat
  | ['0', 'x'] => some 0
  | '0' :: 'x' :: cs => digits? 16 cs
  | ['0'] => some 0
  | '0' :: cs => digits? 8 cs
  | cs => digits? 10 cs

/-- The number of 32 bits that the numbers of some parts make up, in so many parts at most. -/
def join? : Nat → List Nat → Option Nat
  | _, [] => none
  | 0, _ => none
  | room + 1, [n] => if n < Nat.pow 256 (room + 1) then some n else none
  | room + 1, n :: ns =>
    if n < 256 then (join? room ns).map (n * Nat.pow 256 room + ·) else none

/-- The number of 32 bits that parts spell. -/
def number? (parts : List (List Char)) : Option Nat :=
  (parts.mapM part?).bind (join? 4)

/-- The four bytes of a number of 32 bits. -/
def ipv4Bytes (number : Nat) : List UInt8 :=
  [(number / 0x1000000).toUInt8, (number / 0x10000).toUInt8, (number / 0x100).toUInt8,
    number.toUInt8]

/-! ## 2. Numbers of 128 bits -/

/-- The group that one to four hexadecimal digits spell. -/
def group? (cs : List Char) : Option Nat :=
  if cs.length ≤ 4 then digits? 16 cs else none

/-- The byte that decimal digits spell, without zeros in front. -/
def byte? : List Char → Option Nat
  | ['0'] => some 0
  | '0' :: _ => none
  | cs => (digits? 10 cs).filter (· < 256)

/-- The two groups that four bytes between points spell. -/
def dotted? (cs : List Char) : Option (List Nat) := do
  match ← (cs.splitOn '.').mapM byte? with
  | [a, b, c, d] => some [a * 256 + b, c * 256 + d]
  | _ => none

/-- The groups that pieces spell. Where points are allowed, the last piece may be four bytes. -/
def pieces? (points : Bool) : List (List Char) → Option (List Nat)
  | [] => some []
  | [cs] => if points ∧ cs.contains '.' then dotted? cs else (group? cs).map ([·])
  | cs :: rest => do return (← group? cs) :: (← pieces? points rest)

/-- The groups between the colons of a text; an empty text has none. -/
def run? (points : Bool) (cs : List Char) : Option (List Nat) :=
  if cs.isEmpty then some [] else pieces? points (cs.splitOn ':')

/-- The texts in front of the first two colons in a row and behind them. -/
def gap? : List Char → Option (List Char × List Char)
  | ':' :: ':' :: cs => some ([], cs)
  | c :: cs => (gap? cs).map fun (front, back) => (c :: front, back)
  | [] => none

/-- The eight groups that a text in brackets spells. Two colons in a row stand for at least one
group of zeros. -/
def groups? (cs : List Char) : Option (List Nat) := do
  match gap? cs with
  | none => (run? true cs).filter (·.length = 8)
  | some (front, back) =>
    let front ← run? false front
    let back ← run? true back
    let size := front.length + back.length
    if size ≤ 7 then some (front ++ List.replicate (8 - size) 0 ++ back) else none

/-- Where the longest stretch of zeros begins, and its length. -/
def zeros (groups : List Nat) : Nat × Nat :=
  ((List.range groups.length).map fun i => (i, ((groups.drop i).takeWhile (· = 0)).length)).foldl
    (fun best next => if best.2 < next.2 then next else best) (0, 0)

/-- The groups in hexadecimal digits between colons. -/
def groupsText (groups : List Nat) : String :=
  String.intercalate ":" (groups.map fun n => String.ofList (Nat.toDigits 16 n))

/-- The text of a number of 128 bits; the longest stretch of zeros is left out. -/
def ipv6Text (groups : List Nat) : String :=
  let (start, length) := zeros groups
  if length < 2 then groupsText groups
  else groupsText (groups.take start) ++ "::" ++ groupsText (groups.drop (start + length))

/-- The text of a host. -/
def text : Host → String
  | .ipv4 n => String.intercalate "." ((ipv4Bytes n).map fun b => toString b.toNat)
  | .ipv6 groups => "[" ++ ipv6Text groups ++ "]"
  | .name host => host

/-! ## 3. Texts -/

/-- The parts between the points of a text; a point at its end does not count. -/
def parts (cs : List Char) : List (List Char) :=
  let all := cs.splitOn '.'
  if 1 < all.length ∧ all.getLast? = some [] then all.dropLast else all

/-- The part is written in digits, or spells a number. -/
def isNumeric (cs : List Char) : Bool :=
  (!cs.isEmpty && cs.all Char.isDigit) || (part? cs).isSome

/-- Characters that no host may hold. -/
def isForbidden (c : Char) : Bool :=
  c.toNat ≤ 0x20 || c.toNat == 0x7F
    || ['#', '%', '/', ':', '<', '>', '?', '@', '[', '\\', ']', '^', '|'].contains c

/-- The bytes that a text stands for, its percent escapes replaced. -/
def unescape : List Char → List UInt8
  | '%' :: c :: d :: cs =>
    match Hex.value? c, Hex.value? d with
    | some high, some low => (high * 16 + low).toUInt8 :: unescape cs
    | _, _ => 0x25 :: unescape (c :: d :: cs)
  | c :: cs => String.utf8EncodeChar c ++ unescape cs
  | [] => []

/-- The host that a text without brackets gives, where `toAscii?` writes names in ASCII. -/
def parse? (toAscii? : String → Option String) (cs : List Char) : Option Host := do
  let text ← String.fromUTF8? ⟨(unescape cs).toArray⟩
  let name := (← toAscii? text).toList
  if name.isEmpty || name.any isForbidden then none
  let parts := parts name
  if parts.getLast?.any isNumeric then return .ipv4 (← number? parts)
  return .name (String.ofList name)

end Host

end TemplateClient
