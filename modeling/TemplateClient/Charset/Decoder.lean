/-!
# Decoders

An encoding of several bytes for a character is read byte by byte: between bytes something may be
under way, and a byte gives the characters that it completes. Reading never fails: what is malformed
becomes a replacement character, and the text goes on behind it.

* `replacementChar` -- what stands for bytes that stand for no character;
* `Decoder`, `Decoder.decode` -- an encoding, and the text that bytes stand for.
-/

namespace TemplateClient

/-- What stands for bytes that stand for no character. -/
def replacementChar : Char := '\ufffd'

/-- An encoding that is read byte by byte. -/
structure Decoder (State : Type) where
  /-- Nothing is under way. -/
  start : State
  /-- The characters that one more byte gives, and what is under way after it. -/
  step : State → UInt8 → List Char × State
  /-- The characters that the end gives. -/
  finish : State → List Char

namespace Decoder

variable {State : Type}

/-- The text of bytes after a state, and after the characters in `front` (latest first). -/
def decodeFrom (d : Decoder State) (s : State) (front : List Char) : List UInt8 → List Char
  | [] => ((d.finish s).reverse ++ front).reverse
  | b :: bs =>
    let (cs, next) := d.step s b
    decodeFrom d next (cs.reverse ++ front) bs

/-- The text of bytes. -/
def decode (d : Decoder State) (bytes : List UInt8) : List Char :=
  d.decodeFrom d.start [] bytes

end Decoder

/-- The byte is a character of ASCII. -/
def isAscii (b : UInt8) : Bool := b < 0x80

/-- The character of a byte of ASCII. -/
def asciiChar (b : UInt8) : Char := Char.ofNat b.toNat

/-- What a byte gives that does not fit what is under way: of ASCII, it still counts for itself. -/
def misfit (b : UInt8) : List Char :=
  if isAscii b then [replacementChar, asciiChar b] else [replacementChar]

/-- The byte lies between two others. -/
def isBetween (low high b : UInt8) : Bool := low ≤ b && b ≤ high

end TemplateClient
