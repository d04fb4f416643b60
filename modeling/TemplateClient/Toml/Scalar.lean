import TemplateClient.Toml.Value
import TemplateClient.Number.Binary64
import TemplateClient.Number.Hex

/-!
# TOML numbers, dates and truth values

Everything that is written without marks. Its characters form one word; a date may be followed by a
space and a time, which belong to it.

* `Toml.integer?`, `Toml.float?` -- numbers of any size;
* `Toml.ofInteger`, `Toml.ofFloat` -- the values that they are, by their ranges;
* `Toml.isDateTime` -- dates and times;
* `Toml.word?` -- the value that a word is.
-/

namespace TemplateClient.Toml

/-! ## 1. Digits -/

/-- The value of a digit to a base, if it is one. -/
def digit? (base : Nat) (c : Char) : Option Nat :=
  (Hex.value? c).filter (· < base)

/-- The value of digits to a base. A single underscore may stand between two digits. -/
def digits? (base : Nat) : List Char → Option Nat
  | [] => none
  | c :: cs => (digit? base c).bind fun d => go d cs
where
  /-- The digits after those of value `n`. -/
  go (n : Nat) : List Char → Option Nat
    | [] => some n
    | '_' :: c :: cs => (digit? base c).bind fun d => go (n * base + d) cs
    | c :: cs => (digit? base c).bind fun d => go (n * base + d) cs

/-- The digits without the underscores. -/
def plainDigits (cs : List Char) : List Char := cs.filter (· != '_')

/-- Decimal digits without an idle zero in front. -/
def decimal? (cs : List Char) : Option Nat :=
  if cs.head? = some '0' ∧ cs ≠ ['0'] then none else digits? 10 cs

/-- A sign in front, if there is one, and the rest. -/
def sign : List Char → Bool × List Char
  | '-' :: cs => (true, cs)
  | '+' :: cs => (false, cs)
  | cs => (false, cs)

/-! ## 2. Numbers -/

/-- The integer that a word is, whatever its size. -/
def integer? : List Char → Option Int
  | '0' :: 'x' :: cs => (digits? 16 cs).map Int.ofNat
  | '0' :: 'o' :: cs => (digits? 8 cs).map Int.ofNat
  | '0' :: 'b' :: cs => (digits? 2 cs).map Int.ofNat
  | cs =>
    let (negative, cs) := sign cs
    (decimal? cs).map fun n => if negative then -(n : Int) else n

/-- The mark of a base, without a digit. -/
def isBareMark (cs : List Char) : Bool :=
  cs == ['0', 'x'] || cs == ['0', 'o'] || cs == ['0', 'b']

/-- The value that an integer is. It has at most 128 bits, with a sign or without. -/
def ofInteger (n : Int) : Value :=
  if -0x80000000000000000000000000000000 ≤ n ∧ n < 0x100000000000000000000000000000000 then
    .integer n
  else .unreadable

/-- The exponent of a float, after its mark. -/
def exponent? (cs : List Char) : Option Int :=
  let (negative, cs) := sign cs
  (digits? 10 cs).map fun n => if negative then -(n : Int) else n

/-- The significand and the exponent of the float that a word is. It has a fraction, an exponent or
both. -/
def float? (cs : List Char) : Option (Nat × Int) :=
  let (_, cs) := sign cs
  let isMark := fun c => c == 'e' || c == 'E'
  let mantissa := cs.takeWhile (!isMark ·)
  let exponent := (cs.dropWhile (!isMark ·)).drop 1
  let hasExponent := cs.any isMark
  let whole := mantissa.takeWhile (· != '.')
  let fraction := (mantissa.dropWhile (· != '.')).drop 1
  let hasFraction := mantissa.any (· == '.')
  if hasFraction || hasExponent then do
    let n ← decimal? whole
    let f ← if hasFraction then digits? 10 fraction else some 0
    let e ← if hasExponent then exponent? exponent else some 0
    let places := if hasFraction then (plainDigits fraction).length else 0
    return (n * Nat.pow 10 places + f, e - places)
  else none

/-- The value that the float `significand * 10 ^ exponent` is. It must not round to infinity. -/
def ofFloat (significand : Nat) (exponent : Int) : Value :=
  if Binary64.isFinite significand exponent then .float else .unreadable

/-- The words for infinity and for no number, which may have a sign. -/
def isSpecial (cs : List Char) : Bool :=
  let (_, cs) := sign cs
  cs == ['i', 'n', 'f'] || cs == ['n', 'a', 'n']

/-! ## 3. Dates and times -/

/-- The number of exactly `count` digits in front, and what follows them. -/
def take? (count : Nat) (cs : List Char) : Option (Nat × List Char) :=
  let front := cs.take count
  if front.length = count ∧ front.all Char.isDigit then
    (digits? 10 front).map (·, cs.drop count)
  else none

/-- The days of a month. -/
def daysIn (year month : Nat) : Nat :=
  if month = 2 then
    if year % 4 = 0 ∧ (year % 100 ≠ 0 ∨ year % 400 = 0) then 29 else 28
  else if month = 4 ∨ month = 6 ∨ month = 9 ∨ month = 11 then 30
  else 31

/-- What follows the date in front. -/
def date? (cs : List Char) : Option (List Char) := do
  let (year, cs) ← take? 4 cs
  let '-' :: cs := cs | none
  let (month, cs) ← take? 2 cs
  let '-' :: cs := cs | none
  let (day, cs) ← take? 2 cs
  if 1 ≤ month ∧ month ≤ 12 ∧ 1 ≤ day ∧ day ≤ daysIn year month then return cs else none

/-- What follows the time in front; seconds may be left out. -/
def time? (cs : List Char) : Option (List Char) := do
  let (hour, cs) ← take? 2 cs
  let ':' :: cs := cs | none
  let (minute, cs) ← take? 2 cs
  if hour ≤ 23 ∧ minute ≤ 59 then
    match cs with
    | ':' :: cs =>
      let (second, cs) ← take? 2 cs
      if 60 < second then none
      else match cs with
        | '.' :: c :: cs => if c.isDigit then return cs.dropWhile Char.isDigit else none
        | '.' :: [] => none
        | cs => return cs
    | cs => return cs
  else none

/-- The rest of a time is its distance from universal time, or nothing. -/
def isOffset : List Char → Bool
  | [] => true
  | ['Z'] => true
  | ['z'] => true
  | c :: cs =>
    (c == '+' || c == '-') &&
      match take? 2 cs with
      | some (hour, ':' :: cs) =>
        match take? 2 cs with
        | some (minute, []) => decide (hour ≤ 23 ∧ minute ≤ 59)
        | _ => false
      | _ => false

/-- The word is a date, a time, or both. -/
def isDateTime (cs : List Char) : Bool :=
  match date? cs with
  | some [] => true
  | some (c :: rest) => (c == 'T' || c == 't' || c == ' ') && ((time? rest).map isOffset).getD false
  | none => time? cs == some []

/-! ## 4. Words -/

/-- The characters of words. -/
def isWord (c : Char) : Bool :=
  c.isAlphanum || c == '+' || c == '-' || c == '_' || c == '.' || c == ':'

/-- The word that the text begins with, and what follows it. A date takes a time after a space. -/
def splitWord (cs : List Char) : List Char × List Char :=
  let word := cs.takeWhile isWord
  match cs.dropWhile isWord with
  | ' ' :: c :: rest =>
    if c.isDigit && date? word == some [] then
      (word ++ ' ' :: (c :: rest).takeWhile isWord, (c :: rest).dropWhile isWord)
    else (word, ' ' :: c :: rest)
  | rest => (word, rest)

/-- The value that a word is. -/
def word? (cs : List Char) : Option Value :=
  if cs = ['t', 'r', 'u', 'e'] then some (.bool true)
  else if cs = ['f', 'a', 'l', 's', 'e'] then some (.bool false)
  else if isSpecial cs then some .float
  else if isDateTime cs then some .dateTime
  else if isBareMark cs then some .unreadable
  else match integer? cs with
    | some n => some (ofInteger n)
    | none => (float? cs).map fun (n, e) => ofFloat n e

end TemplateClient.Toml
