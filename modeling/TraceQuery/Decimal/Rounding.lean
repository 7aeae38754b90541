/-
  The double nearest to a decimal.

  1. `roundRatio num den` is the whole number nearest to `num / den`; a half goes to the even one.
  2. `Double.ofRatio` places a positive ratio on the grid of doubles: the exponent is the least one
     for which the significand stays below 2^53, and the ratio is rounded once, on that grid.  A
     significand that rounds up to 2^53 moves to the next exponent; an exponent above the largest
     is an infinity.
  3. `Scaled` is a coefficient times a power of ten; `Scaled.toDouble` is the double nearest to
     it.  Powers of ten far outside the range are decided by comparing exponents, so that no number
     is ever much longer than its text.

  Mathlib-free.
-/
import TraceQuery.Decimal.Double

namespace TraceQuery.Decimal

/-! ## Rounding a ratio -/

/-- The whole number nearest to `num / den`, a half going to the even neighbour. -/
def roundRatio (num den : Nat) : Nat :=
  let q := num / den
  let r := num % den
  if 2 * r < den then q
  else if den < 2 * r then q + 1
  else q + q % 2

/-- Rounding goes to one of the two whole numbers around the ratio. -/
theorem roundRatio_bounds (num den : Nat) :
    num / den ≤ roundRatio num den ∧ roundRatio num den ≤ num / den + 1 := by
  simp only [roundRatio]
  split
  · omega
  · split <;> omega

theorem roundRatio_of_dvd {den : Nat} (h : 0 < den) (q : Nat) : roundRatio (q * den) den = q := by
  simp [roundRatio, Nat.mul_div_cancel q h, h]

/-! ## From a ratio to a double -/

namespace Double

/-- The exponent on whose grid `steps` steps are rounded: the least one that leaves a significand
    of at most 53 bits. -/
def exponentFor (steps : Nat) : Nat :=
  if steps < twoTo 53 then 0 else steps.log2 - 52

/-- The double with this sign, significand and exponent; out of range means infinite. -/
def ofParts (negative : Bool) (significand exponent : Nat) : Double :=
  if h : significand < twoTo 53 ∧ exponent ≤ 2045 ∧ (exponent = 0 ∨ twoTo 52 ≤ significand) then
    .finite ⟨negative, significand, exponent, h⟩
  else .infinite negative

/-- The double nearest to `± num / den`. -/
def ofRatio (negative : Bool) (num den : Nat) : Double :=
  let steps := num * stepsInOne
  let exponent := exponentFor (steps / den)
  let significand := roundRatio steps (den * twoTo exponent)
  -- rounding up can need one more bit, which is the first significand of the next exponent
  if significand = twoTo 53 then ofParts negative (twoTo 52) (exponent + 1)
  else ofParts negative significand exponent

end Double

/-! ## From a decimal to a double -/

/-- The number `± coefficient * 10^exponent`. -/
structure Scaled where
  negative : Bool
  coefficient : Nat
  exponent : Int
deriving DecidableEq, Repr

namespace Scaled

/-- A positive coefficient with a larger power of ten is beyond every double. -/
def largestPower : Int := 400

/-- Tells, by lengths alone, that `coefficient / 10^shift` is less than a quarter of the smallest
    double: ten is more than 2^3. -/
def vanishes (coefficient shift : Nat) : Bool := coefficient.log2 + 1 + 1076 < 3 * shift

/-- The double nearest to a decimal. -/
def toDouble (d : Scaled) : Double :=
  if d.coefficient = 0 then .finite (.zero d.negative)
  else if 0 ≤ d.exponent then
    -- the two exits keep powers of ten as short as the text is, and are exact (`vanishes`)
    if largestPower < d.exponent then .infinite d.negative
    else Double.ofRatio d.negative (d.coefficient * tenTo d.exponent.toNat) 1
  else
    let shift := (-d.exponent).toNat
    if vanishes d.coefficient shift then .finite (.zero d.negative)
    else Double.ofRatio d.negative d.coefficient (tenTo shift)

end Scaled

end TraceQuery.Decimal
