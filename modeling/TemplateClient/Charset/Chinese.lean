import TemplateClient.Charset.Decoder
import TemplateClient.Charset.Table.Big5
import TemplateClient.Charset.Table.Gb18030

/-!
# Encodings of Chinese

* `Big5.decoder` -- traditional Chinese: one byte for ASCII, and two bytes for a place of the table;
* `Gb18030.decoder` -- one byte for ASCII, two bytes for a character of the table, and four bytes
  for any other character. Older encodings of simplified Chinese are read as this one.
-/

namespace TemplateClient

/-! ## 1. Big5 -/

namespace Big5

/-- The state after no first byte, or after one. -/
abbrev State := Option UInt8

/-- What a byte gives where a character begins. -/
def begin (b : UInt8) : List Char × State :=
  if isAscii b then ([asciiChar b], none)
  else if isBetween 0x81 0xFE b then ([], some b)
  else ([replacementChar], none)

/-- The place in the table that two bytes point to. -/
def place? (lead b : UInt8) : Option Nat :=
  if isBetween 0x40 0x7E b then some ((lead.toNat - 0x81) * 157 + (b.toNat - 0x40))
  else if isBetween 0xA1 0xFE b then some ((lead.toNat - 0x81) * 157 + (b.toNat - 0x62))
  else none

/-- What a byte gives. -/
def step (s : State) (b : UInt8) : List Char × State :=
  match s with
  | none => begin b
  | some lead =>
    match (place? lead b).bind chars? with
    | some cs => (cs, none)
    | none => (misfit b, none)

/-- The encoding. -/
def decoder : Decoder State where
  start := none
  step
  finish s := if s.isSome then [replacementChar] else []

end Big5

/-! ## 2. GB 18030 -/

namespace Gb18030

/-- The bytes under way. -/
inductive State where
  | start
  | one (first : UInt8)
  | two (first second : UInt8)
  | three (first second third : UInt8)

/-- The byte is a digit of ASCII, as the second and the fourth of four bytes are. -/
def isDigit (b : UInt8) : Bool := isBetween 0x30 0x39 b

/-- The byte can begin a character of several bytes. -/
def isLead (b : UInt8) : Bool := isBetween 0x81 0xFE b

/-- What a byte gives where a character begins. -/
def begin (b : UInt8) : List Char × State :=
  if isAscii b then ([asciiChar b], .start)
  else if b = 0x80 then (['€'], .start)
  else if isLead b then ([], .one b)
  else ([replacementChar], .start)

/-- The place in the table that two bytes point to. -/
def place? (first b : UInt8) : Option Nat :=
  if isBetween 0x40 0x7E b then some ((first.toNat - 0x81) * 190 + (b.toNat - 0x40))
  else if isBetween 0x80 0xFE b then some ((first.toNat - 0x81) * 190 + (b.toNat - 0x41))
  else none

/-- What a byte gives after a first one. -/
def afterOne (first b : UInt8) : List Char × State :=
  if isDigit b then ([], .two first b)
  else match (place? first b).bind char? with
    | some c => ([c], .start)
    | none => (misfit b, .start)

/-- The number of a code of four bytes. -/
def number (first second third fourth : UInt8) : Nat :=
  (((first.toNat - 0x81) * 10 + (second.toNat - 0x30)) * 126 + (third.toNat - 0x81)) * 10
    + (fourth.toNat - 0x30)

/-- What a byte gives. Where a code of four bytes breaks off, the bytes behind its first one are
read again. -/
def step (s : State) (b : UInt8) : List Char × State :=
  match s with
  | .start => begin b
  | .one first => afterOne first b
  | .two first second =>
    if isLead b then ([], .three first second b)
    else
      let (cs, s) := begin b
      (replacementChar :: asciiChar second :: cs, s)
  | .three first second third =>
    if isDigit b then ([(counted? (number first second third b)).getD replacementChar], .start)
    else
      let (cs, s) := afterOne third b
      (replacementChar :: asciiChar second :: cs, s)

/-- The encoding. -/
def decoder : Decoder State where
  start := .start
  step
  finish
    | .start => []
    | _ => [replacementChar]

end Gb18030

end TemplateClient
