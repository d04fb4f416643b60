import TemplateClient.Charset.Decoder
import TemplateClient.Charset.Table.Jis0208
import TemplateClient.Charset.Table.Jis0212

/-!
# Encodings of Japanese

* `ShiftJis.decoder` -- two bytes for a character of the table, and one for ASCII and half-width
  Katakana;
* `EucJp.decoder` -- the same table in two bytes of the upper half, and a further table behind a
  byte that announces it;
* `Iso2022Jp.decoder` -- bytes of the lower half, where escape sequences change what they stand for.
-/

namespace TemplateClient

/-- The half-width Katakana character of a byte from 0xA1 on. -/
def katakana (b : UInt8) : Char := Char.ofNat (0xFF61 + (b.toNat - 0xA1))

/-! ## 1. Shift_JIS -/

namespace ShiftJis

/-- The state after no first byte, or after one. -/
abbrev State := Option UInt8

/-- What a byte gives where a character begins. -/
def begin (b : UInt8) : List Char × State :=
  if isAscii b || b == 0x80 then ([asciiChar b], none)
  else if isBetween 0xA1 0xDF b then ([katakana b], none)
  else if isBetween 0x81 0x9F b || isBetween 0xE0 0xFC b then ([], some b)
  else ([replacementChar], none)

/-- The place in the table that two bytes point to. -/
def place? (lead b : UInt8) : Option Nat :=
  if isBetween 0x40 0x7E b || isBetween 0x80 0xFC b then
    let row := lead.toNat - (if lead < 0xA0 then 0x81 else 0xC1)
    some (row * 188 + (b.toNat - (if b < 0x7F then 0x40 else 0x41)))
  else none

/-- What a byte gives. -/
def step (s : State) (b : UInt8) : List Char × State :=
  match s with
  | none => begin b
  | some lead =>
    match (place? lead b).bind Jis0208.char? with
    | some c => ([c], none)
    | none => (misfit b, none)

/-- The encoding. -/
def decoder : Decoder State where
  start := none
  step
  finish s := if s.isSome then [replacementChar] else []

end ShiftJis

/-! ## 2. EUC-JP -/

namespace EucJp

/-- What is under way. -/
inductive State where
  | start
  /-- After a first byte, the character being in the further table or not. -/
  | lead (further : Bool) (byte : UInt8)

/-- What a byte gives where a character begins. -/
def begin (b : UInt8) : List Char × State :=
  if isAscii b then ([asciiChar b], .start)
  else if b == 0x8E || b == 0x8F || isBetween 0xA1 0xFE b then ([], .lead false b)
  else ([replacementChar], .start)

/-- The place in a table that two bytes point to. -/
def place? (lead b : UInt8) : Option Nat :=
  if isBetween 0xA1 0xFE lead && isBetween 0xA1 0xFE b then
    some ((lead.toNat - 0xA1) * 94 + (b.toNat - 0xA1))
  else none

/-- What a byte gives. -/
def step (s : State) (b : UInt8) : List Char × State :=
  match s with
  | .start => begin b
  | .lead further lead =>
    if lead == 0x8E && isBetween 0xA1 0xDF b then ([katakana b], .start)
    else if lead == 0x8F && isBetween 0xA1 0xFE b then ([], .lead true b)
    else
      match (place? lead b).bind (if further then Jis0212.char? else Jis0208.char?) with
      | some c => ([c], .start)
      | none => (misfit b, .start)

/-- The encoding. -/
def decoder : Decoder State where
  start := .start
  step
  finish
    | .start => []
    | .lead _ _ => [replacementChar]

end EucJp

/-! ## 3. ISO-2022-JP -/

namespace Iso2022Jp

/-- What bytes stand for. -/
inductive Set where
  | ascii
  /-- ASCII with a yen sign and an overline. -/
  | roman
  | katakana
  /-- Two bytes for a character of the table. -/
  | table
deriving DecidableEq, Repr

/-- What is under way. -/
inductive Place where
  | start
  /-- After the first of two bytes. -/
  | lead (byte : UInt8)
  /-- After an escape character. -/
  | escape
  /-- After an escape character and the byte behind it. -/
  | escaped (byte : UInt8)

/-- What is under way, and the set in force. -/
structure State where
  set : Set := .ascii
  place : Place := .start
  /-- An escape sequence has put the set in force, and nothing has come since. -/
  isUnused : Bool := false

/-- The escape character. -/
def escapeByte : UInt8 := 0x1B

/-- A byte of ASCII as a character, but for the control characters that change sets elsewhere. -/
def plain (b : UInt8) : Char :=
  if isAscii b && b != 0x0E && b != 0x0F then asciiChar b else replacementChar

/-- What a byte gives where a character begins. -/
def begin (s : State) (b : UInt8) : List Char × State :=
  if b = escapeByte then ([], { s with place := .escape })
  else match s.set with
    | .ascii => ([plain b], { set := .ascii })
    | .roman =>
      ([if b = 0x5C then '¥' else if b = 0x7E then '‾' else plain b], { set := .roman })
    | .katakana =>
      ([if isBetween 0x21 0x5F b then katakana (b + 0x80) else replacementChar],
        { set := .katakana })
    | .table =>
      if isBetween 0x21 0x7E b then ([], { set := .table, place := .lead b })
      else ([replacementChar], { set := .table })

/-- What a byte gives after the first of two bytes. -/
def finishPair (lead b : UInt8) : List Char × State :=
  if b = escapeByte then ([replacementChar], { set := .table, place := .escape })
  else if isBetween 0x21 0x7E b then
    let place := (lead.toNat - 0x21) * 94 + (b.toNat - 0x21)
    ([(Jis0208.char? place).getD replacementChar], { set := .table })
  else ([replacementChar], { set := .table })

/-- The set that an escape sequence puts in force. -/
def set? (first second : UInt8) : Option Set :=
  if first = 0x28 ∧ second = 0x42 then some .ascii
  else if first = 0x28 ∧ second = 0x4A then some .roman
  else if first = 0x28 ∧ second = 0x49 then some .katakana
  else if first = 0x24 ∧ (second = 0x40 ∨ second = 0x42) then some .table
  else none

/-- What a byte gives. Where an escape character begins no escape sequence, the bytes behind it
count for themselves; and a set that nothing has used must not give way to another. -/
def step (s : State) (b : UInt8) : List Char × State :=
  match s.place with
  | .start => begin s b
  | .lead lead => finishPair lead b
  | .escape =>
    if b = 0x24 ∨ b = 0x28 then ([], { s with place := .escaped b })
    else
      let (cs, s) := begin { set := s.set } b
      (replacementChar :: cs, s)
  | .escaped first =>
    match set? first b with
    | some set => (if s.isUnused then [replacementChar] else [], { set, isUnused := true })
    | none =>
      let (cs, s) := begin { set := s.set } first
      let (ds, s) := match s.place with
        | .lead lead => finishPair lead b
        | _ => begin s b
      (replacementChar :: cs ++ ds, s)

/-- What the end gives. -/
def finish (s : State) : List Char :=
  match s.place with
  | .start => []
  | .lead _ => [replacementChar]
  | .escape => [replacementChar]
  | .escaped first =>
    let (cs, s) := begin { set := s.set } first
    replacementChar :: cs ++ match s.place with
      | .lead _ => [replacementChar]
      | _ => []

/-- The encoding. -/
def decoder : Decoder State := { start := {}, step, finish }

end Iso2022Jp

end TemplateClient
