/-
  Every finite double is a decimal.

  A double is a whole number of steps of 2^-1074, and a step is 5^1074 times 10^-1074.  So it is written
  with 1074 digits behind the point at most, and this decimal, being on the grid, is not rounded
  (`Finite.toDouble_decimal`).

  Mathlib-free.
-/
import TraceQuery.Proofs.Decimal.Whole

namespace TraceQuery.Decimal

/-! ## On the grid -/

namespace Finite

variable {x : Finite}

/-- Zero has two doubles, one for each sign, and no exponent to choose. -/
theorem eq_zero_of_isZero (h : x.isZero = true) : x = zero x.negative := by
  obtain ⟨negative, significand, exponent, _, _, full⟩ := x
  have none : significand = 0 := eq_of_beq h
  subst none
  -- zero has no full significand, so only the finest grid is left for it
  have finest : exponent = 0 := by
    have := twoTo_pos 52
    omega
  subst finest
  rfl

/-- The grid of a magnitude is the one it is given on. -/
theorem exponentFor_magnitude (nonzero : x.significand ≠ 0) :
    Double.exponentFor x.magnitude = x.exponent := by
  obtain ⟨bits, _, full⟩ := x.fits
  -- below 2^53 steps the grid is the finest one whatever the number; above, its highest bit fixes the grid
  by_cases finest : x.exponent = 0
  · have step : twoTo 0 = 1 := rfl
    rw [magnitude, finest, step, Nat.mul_one]
    exact if_pos bits
  · replace full : twoTo 52 ≤ x.significand := full.resolve_left finest
    have place : x.significand.log2 = 52 := (Nat.log2_eq_iff nonzero).mpr ⟨full, bits⟩
    have coarse : twoTo 1 ≤ twoTo x.exponent := Nat.pow_le_pow_right (by decide) (by omega)
    have large : ¬ x.magnitude < twoTo 53 := Nat.not_lt.mpr (Nat.mul_le_mul full coarse)
    rw [Double.exponentFor, if_neg large, magnitude, log2_mul_twoTo nonzero, place]
    omega

/-- A ratio that is rounded to a significand on its grid gives the double with both. -/
theorem ofRatio_of_rounded {num den : Nat} (grid : Double.exponentFor (num * stepsInOne / den) = x.exponent)
    (rounded : roundRatio (num * stepsInOne) (den * twoTo x.exponent) = x.significand) :
    Double.ofRatio x.negative num den = .finite x := by
  have bits : x.significand ≠ twoTo 53 := Nat.ne_of_lt x.significand_lt
  simp only [Double.ofRatio, grid, rounded]
  rw [if_neg bits, Double.ofParts, dif_pos x.fits]

/-- A ratio that is a double is not rounded. -/
theorem ofRatio_exact (nonzero : x.significand ≠ 0) {num den : Nat} (positive : 0 < den)
    (same : num * stepsInOne = x.magnitude * den) : Double.ofRatio x.negative num den = .finite x := by
  refine ofRatio_of_rounded ?_ ?_
  · rw [same, Nat.mul_div_cancel _ positive, exponentFor_magnitude nonzero]
  · have product : x.magnitude * den = x.significand * (den * twoTo x.exponent) := by
      rw [magnitude, Nat.mul_assoc, Nat.mul_comm den]
    rw [same, product]
    exact roundRatio_of_dvd (Nat.mul_pos positive (twoTo_pos _)) _

end Finite

/-! ## As a decimal -/

/-- The other factor of a power of ten. -/
def fiveTo (n : Nat) : Nat := Nat.pow 5 n

theorem fiveTo_mul_twoTo (n : Nat) : fiveTo n * twoTo n = tenTo n := (Nat.mul_pow 5 2 n).symm

/-- A five is worth more than two bits. -/
theorem twoTo_le_fiveTo (n : Nat) : twoTo (2 * n) ≤ fiveTo n :=
  calc twoTo (2 * n) = Nat.pow 4 n := Nat.pow_mul 2 2 n
    _ ≤ fiveTo n := Nat.pow_le_pow_left (by decide) n

theorem le_log2 {k n : Nat} (h : twoTo k ≤ n) : k ≤ n.log2 :=
  (Nat.le_log2 (Nat.ne_of_gt (Nat.lt_of_lt_of_le (twoTo_pos k) h))).mpr h

/-- The decimal that a double is. -/
def Finite.decimal (x : Finite) : Scaled := ⟨x.negative, x.magnitude * fiveTo 1074, -1074⟩

/-- The decimal of a double is read as this double. -/
theorem Finite.toDouble_decimal (x : Finite) : x.decimal.toDouble = .finite x := by
  by_cases zero : x.significand = 0
  · have none : x.decimal.coefficient = 0 := by
      show x.magnitude * _ = 0
      rw [magnitude, zero, Nat.zero_mul, Nat.zero_mul]
    rw [Scaled.toDouble, if_pos none, eq_zero_of_isZero (x := x) (by simp [isZero, zero])]
    rfl
  · have some : 0 < x.magnitude := Nat.mul_pos (Nat.pos_of_ne_zero zero) (twoTo_pos _)
    have large : twoTo (2 * 1074) ≤ x.decimal.coefficient :=
      Nat.le_trans (twoTo_le_fiveTo 1074) (Nat.le_mul_of_pos_left _ some)
    have nonzero : x.decimal.coefficient ≠ 0 :=
      Nat.ne_of_gt (Nat.lt_of_lt_of_le (twoTo_pos _) large)
    -- it has too many digits to vanish
    have visible : Scaled.vanishes x.decimal.coefficient 1074 = false := by
      have place : 2 * 1074 ≤ x.decimal.coefficient.log2 := le_log2 large
      rw [Scaled.vanishes, decide_eq_false_iff_not]
      omega
    -- so the decimal is read as the ratio of its coefficient and 10^1074
    have below : ¬ 0 ≤ x.decimal.exponent := show ¬ (0 : Int) ≤ -1074 by decide
    rw [Scaled.toDouble, if_neg nonzero, if_neg below]
    show (if Scaled.vanishes x.decimal.coefficient 1074 then _ else _) = _
    rw [visible, if_neg Bool.false_ne_true]
    refine ofRatio_exact zero (tenTo_pos 1074) ?_
    show x.magnitude * fiveTo 1074 * twoTo 1074 = x.magnitude * tenTo 1074
    rw [Nat.mul_assoc, fiveTo_mul_twoTo]

end TraceQuery.Decimal
