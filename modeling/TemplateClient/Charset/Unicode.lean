import TemplateClient.Charset.Decoder

/-!
# Unicode encodings

Lenient decoding of UTF-8 and UTF-16: what is malformed becomes a replacement character, and the
text goes on behind it.

* `Utf8.decoder`, `Utf8.decode` -- UTF-8, where each longest piece that could still have become
  a character is replaced as a whole;
* `Utf16.units`, `Utf16.decode` -- UTF-16 in either order of bytes.
-/

namespace TemplateClient

namespace Utf8

/-! ## 1. UTF-8 -/

/-- A character under way: its bits so far, how many bytes are missing, and between which bounds the
next one has to lie. -/
structure State where
  bits : Nat
  missing : Nat
  low : UInt8 := 0x80
  high : UInt8 := 0xBF

/-- What the first byte of a character begins: a whole character, a longer one, or nothing. The
bounds for the second byte exclude spellings that are too long, surrogates, and what lies beyond
the last character. -/
def State.start (b : UInt8) : List Char × Option State :=
  if b < 0x80 then ([Char.ofNat b.toNat], none)
  else if b < 0xC2 then ([replacementChar], none)
  else if b < 0xE0 then ([], some { bits := b.toNat % 0x20, missing := 1 })
  else if b < 0xF0 then
    ([], some {
      bits := b.toNat % 0x10
      missing := 2
      low := if b = 0xE0 then 0xA0 else 0x80
      high := if b = 0xED then 0x9F else 0xBF })
  else if b < 0xF5 then
    ([], some {
      bits := b.toNat % 8
      missing := 3
      low := if b = 0xF0 then 0x90 else 0x80
      high := if b = 0xF4 then 0x8F else 0xBF })
  else ([replacementChar], none)

/-- What one more byte gives, and what is under way after it. A byte out of bounds begins anew. -/
def State.step (s : State) (b : UInt8) : List Char × Option State :=
  if s.low ≤ b ∧ b ≤ s.high then
    let bits := s.bits * 0x40 + b.toNat % 0x40
    if s.missing = 1 then ([Char.ofNat bits], none)
    else ([], some { bits, missing := s.missing - 1 })
  else
    let (cs, next) := State.start b
    (replacementChar :: cs, next)

/-- The encoding. -/
def decoder : Decoder (Option State) where
  start := none
  step
    | none, b => State.start b
    | some s, b => s.step b
  finish s := if s.isSome then [replacementChar] else []

/-- The text of bytes. Well-formed bytes are read as they are. -/
def decode (bytes : List UInt8) : String :=
  match String.fromUTF8? ⟨bytes.toArray⟩ with
  | some text => text
  | none => String.ofList (decoder.decode bytes)

end Utf8

namespace Utf16

/-! ## 2. UTF-16 -/

/-- The units of two bytes each, and whether a byte is left over. -/
def units (bigEndian : Bool) : List UInt8 → List Nat × Bool
  | [] => ([], false)
  | [_] => ([], true)
  | a :: b :: bs =>
    let (us, leftOver) := units bigEndian bs
    let unit := if bigEndian then a.toNat * 0x100 + b.toNat else b.toNat * 0x100 + a.toNat
    (unit :: us, leftOver)

/-- The unit is the first half of a pair. -/
def isHigh (u : Nat) : Bool := 0xD800 ≤ u && u < 0xDC00

/-- The unit is the second half of a pair. -/
def isLow (u : Nat) : Bool := 0xDC00 ≤ u && u < 0xE000

/-- The characters of units. Halves without their partner are replaced, and so is a byte left over;
one that follows an open pair is replaced together with it. -/
def chars (leftOver : Bool) : List Nat → List Char
  | [] => if leftOver then [replacementChar] else []
  | [u] =>
    if isHigh u then [replacementChar]
    else (if isLow u then replacementChar else Char.ofNat u) :: chars leftOver []
  | u :: v :: us =>
    if isHigh u then
      if isLow v then
        Char.ofNat (0x10000 + (u - 0xD800) * 0x400 + (v - 0xDC00)) :: chars leftOver us
      else replacementChar :: chars leftOver (v :: us)
    else (if isLow u then replacementChar else Char.ofNat u) :: chars leftOver (v :: us)

/-- The text of bytes. -/
def decode (bigEndian : Bool) (bytes : List UInt8) : String :=
  let (us, leftOver) := units bigEndian bytes
  String.ofList (chars leftOver us)

end Utf16

end TemplateClient
