/-!
# The range of 64-bit floats

Whether a decimal number is finite as a 64-bit float, in exact arithmetic on natural numbers.

* `Binary64.overflow` -- the least number that rounds to infinity;
* `Binary64.round` -- a natural number rounded to 53 significant bits, a tie to the even neighbour;
* `Binary64.scalesTo` -- whether a rounded significand times a rounded power of ten stays finite;
* `Binary64.isFinite` -- whether a decimal number rounds to a finite float.
-/

namespace TemplateClient.Binary64

/-- The least number that rounds to infinity: half a unit above the greatest finite float. -/
def overflow : Nat := Nat.pow 2 1024 - Nat.pow 2 970

/-- The number rounded to 53 significant bits; a tie goes to the even neighbour. -/
def round (n : Nat) : Nat :=
  let shift := n.log2 - 52
  let unit := Nat.pow 2 shift
  let low := n / unit
  let rest := n % unit
  if 2 * rest < unit ∨ (2 * rest = unit ∧ low % 2 = 0) then low * unit else (low + 1) * unit

/-- The rounded significand times the rounded power of ten does not reach infinity. A power above
`10 ^ 308` is no float of its own, so only zero may carry one. -/
def scalesTo (significand : Nat) (exponent : Int) : Bool :=
  significand == 0 || exponent < 0
    || (exponent ≤ 308 && round significand * round (Nat.pow 10 exponent.toNat) < overflow)

/-- The number `significand * 10 ^ exponent`, rounded once, is finite. A negative exponent need not
be followed further than the significand has bits. -/
def isFinite (significand : Nat) (exponent : Int) : Bool :=
  significand == 0 ||
    if exponent < 0 then
      significand < overflow * Nat.pow 10 (min (-exponent).toNat (significand.log2 + 1))
    else exponent ≤ 308 && significand * Nat.pow 10 exponent.toNat < overflow

example : round 0x20000000000001 = 0x20000000000000 := by decide
example : round 0x20000000000003 = 0x20000000000004 := by decide
example : round 12345 = 12345 := by decide

end TemplateClient.Binary64
