import TemplateClient.Charset.Decoder
import TemplateClient.Charset.Table.Hangul

/-!
# The encoding of Korean

* `EucKr.decoder` -- one byte for ASCII, and two bytes for a character of the table.
-/

namespace TemplateClient.EucKr

/-- The state after no first byte, or after one. -/
abbrev State := Option UInt8

/-- What a byte gives where a character begins. -/
def begin (b : UInt8) : List Char × State :=
  if isAscii b then ([asciiChar b], none)
  else if isBetween 0x81 0xFE b then ([], some b)
  else ([replacementChar], none)

/-- The place in the table that two bytes point to. -/
def place? (lead b : UInt8) : Option Nat :=
  if isBetween 0x41 0xFE b then some ((lead.toNat - 0x81) * 190 + (b.toNat - 0x41)) else none

/-- What a byte gives. -/
def step (s : State) (b : UInt8) : List Char × State :=
  match s with
  | none => begin b
  | some lead =>
    match (place? lead b).bind Hangul.char? with
    | some c => ([c], none)
    | none => (misfit b, none)

/-- The encoding. -/
def decoder : Decoder State where
  start := none
  step
  finish s := if s.isSome then [replacementChar] else []

end TemplateClient.EucKr
