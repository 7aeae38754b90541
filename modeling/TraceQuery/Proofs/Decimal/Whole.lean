/-
  The double nearest to a whole number.

  1. **Rounding** (`finite_ofRatio`, `exists_finite_ofRatio`): a ratio that gives a finite double gives the
     one on its grid, with its sign, and the significand that rounds up to the next exponent is no
     exception.  A ratio whose exponent is in range does give one.
  2. **Whole numbers** (`exponentFor_whole`, `magnitude_whole`): the grid of a whole number is fixed by the
     place of its highest bit.  Up to 53 bits every whole number lies on it; beyond, the doubles are
     `spacing n` apart and `nearestWhole n` is the one that is met.
  3. **Cutting** (`truncate_ofRatio`): the double is whole, so cutting it loses nothing more.
  4. **Doubles among the whole numbers** (`nearestWhole_eq_self_iff`): the numbers that rounding leaves alone
     are those of 53 bits, and these with zeros behind them.  Every number is rounded to one of them
     (`exists_nearestWhole`), and none is closer (`nearestWhole_nearest`); so no power of two is passed.
  5. **Sixty-four bits** (`nearestWhole_eq_iff`): from 2^63 on the doubles are 2048 apart, and the half-way
     point 2^63 + 1024 goes down to the even neighbour.  So up to it the double is 2^63
     (`exists_truncate_near`), and above it it is not (`truncate_far`).  Below 2^63 they are 1024 apart, and
     the half-way point 2^63 - 512 goes up, again to 2^63 (`nearestWhole_lt_iff`).

  Mathlib-free.
-/
import TraceQuery.Decimal.Rounding

namespace TraceQuery.Decimal

variable {negative : Bool} {num den n : Nat} {x : Finite}

/-! ## Powers of two -/

theorem twoTo_add (a b : Nat) : twoTo (a + b) = twoTo a * twoTo b := Nat.pow_add 2 a b

theorem twoTo_log2_le (nonzero : n ≠ 0) : twoTo n.log2 ≤ n := Nat.log2_self_le nonzero

theorem lt_twoTo_log2 (n : Nat) : n < twoTo (n.log2 + 1) := Nat.lt_log2_self

/-- Zeros behind a number move its highest bit up. -/
theorem log2_mul_twoTo (nonzero : n ≠ 0) (k : Nat) : (n * twoTo k).log2 = n.log2 + k := by
  have positive := twoTo_pos k
  have product : n * twoTo k ≠ 0 := Nat.mul_ne_zero nonzero (by omega)
  refine (Nat.log2_eq_iff product).mpr ⟨?_, ?_⟩
  · calc 2 ^ (n.log2 + k) = twoTo n.log2 * twoTo k := twoTo_add _ _
      _ ≤ n * twoTo k := Nat.mul_le_mul_right _ (twoTo_log2_le nonzero)
  · calc n * twoTo k < twoTo (n.log2 + 1) * twoTo k := Nat.mul_lt_mul_of_pos_right (lt_twoTo_log2 n) positive
      _ = 2 ^ (n.log2 + 1 + k) := (twoTo_add _ _).symm
      _ = 2 ^ (n.log2 + k + 1) := by rw [Nat.add_right_comm]

/-! ## Rounding a ratio -/

/-- Rounding sees only the ratio. -/
theorem roundRatio_mul_right {k : Nat} (positive : 0 < k) (num den : Nat) :
    roundRatio (num * k) (den * k) = roundRatio num den := by
  have quotient : num * k / (den * k) = num / den := Nat.mul_div_mul_right num den positive
  have remainder : num * k % (den * k) = num % den * k := Nat.mul_mod_mul_right k num den
  have below : 2 * (num % den * k) < den * k ↔ 2 * (num % den) < den := by
    rw [← Nat.mul_assoc]
    exact Nat.mul_lt_mul_right positive
  have above : den * k < 2 * (num % den * k) ↔ den < 2 * (num % den) := by
    rw [← Nat.mul_assoc]
    exact Nat.mul_lt_mul_right positive
  simp only [roundRatio, quotient, remainder, below, above]

/-- No multiple of `den` is closer to `num` than the one that it is rounded to. -/
theorem roundRatio_nearest {den : Nat} (positive : 0 < den) (num q : Nat) :
    ((roundRatio num den * den : Nat) - num : Int).natAbs ≤ ((q * den : Nat) - num : Int).natAbs := by
  have split : num = num / den * den + num % den := (Nat.div_add_mod' num den).symm
  have rest : num % den < den := Nat.mod_lt num positive
  have up : (num / den + 1) * den = num / den * den + den := Nat.succ_mul _ _
  -- every other multiple lies beyond one of the two next to the number
  have beyond : q * den ≤ num / den * den ∨ num / den * den + den ≤ q * den := by
    rcases Nat.lt_or_ge (num / den) q with above | below
    · exact .inr (up ▸ Nat.mul_le_mul_right den above)
    · exact .inl (Nat.mul_le_mul_right den below)
  simp only [roundRatio]
  split
  · omega
  · split
    · omega
    · rcases Nat.mod_two_eq_zero_or_one (num / den) with even | odd
      · rw [even, Nat.add_zero]
        omega
      · rw [odd]
        omega

namespace Double

/-- The significand of a ratio, which may have rounded up to 2^53. -/
def significandFor (num den : Nat) : Nat :=
  roundRatio (num * stepsInOne) (den * twoTo (exponentFor (num * stepsInOne / den)))

/-- A double is made of the parts that it is given, if it is finite. -/
theorem finite_ofParts {significand exponent : Nat}
    (h : (ofParts negative significand exponent).finite? = some x) :
    x.negative = negative ∧ x.magnitude = significand * twoTo exponent := by
  rw [ofParts] at h
  split at h
  · rw [← Option.some.inj h]
    exact ⟨rfl, rfl⟩
  · cases h

/-- A ratio that gives a finite double gives the one on its grid. -/
theorem finite_ofRatio (h : (ofRatio negative num den).finite? = some x) :
    x.negative = negative ∧
      x.magnitude = significandFor num den * twoTo (exponentFor (num * stepsInOne / den)) := by
  simp only [ofRatio] at h
  split at h
  · -- a significand that reached 2^53 is halved and its exponent raised
    rename_i carried
    obtain ⟨sign, magnitude⟩ := finite_ofParts h
    refine ⟨sign, ?_⟩
    -- half the significand with twice the step
    rw [magnitude, significandFor, carried, Nat.add_comm, twoTo_add, ← Nat.mul_assoc]
    rfl
  · exact finite_ofParts h

/-- Parts within the range of significand and exponent make a finite double. -/
theorem exists_finite_ofParts {significand exponent : Nat} (bits : significand < twoTo 53)
    (range : exponent ≤ 2045) (full : exponent = 0 ∨ twoTo 52 ≤ significand) :
    ∃ x, (ofParts negative significand exponent).finite? = some x := by
  rw [ofParts, dif_pos ⟨bits, range, full⟩]
  exact ⟨_, rfl⟩

/-- On its grid a ratio is at most 2^53 steps, and at least half as many unless the grid is the finest. -/
theorem significandFor_bounds (num den : Nat) :
    significandFor num den ≤ twoTo 53 ∧
      (exponentFor (num * stepsInOne / den) = 0 ∨ twoTo 52 ≤ significandFor num den) := by
  obtain ⟨low, high⟩ := roundRatio_bounds (num * stepsInOne)
    (den * twoTo (exponentFor (num * stepsInOne / den)))
  rw [← Nat.div_div_eq_div_mul] at low high
  rw [significandFor]
  generalize num * stepsInOne / den = steps at low high ⊢
  generalize roundRatio _ _ = significand at low high ⊢
  -- on the finest grid the steps are counted as they are; on any other their highest bit is moved to place 52
  by_cases small : steps < twoTo 53
  · have finest : exponentFor steps = 0 := if_pos small
    have step : twoTo 0 = 1 := rfl
    rw [finest, step, Nat.div_one] at high
    exact ⟨by omega, .inl finest⟩
  · have nonzero : steps ≠ 0 := by
      have := twoTo_pos 53
      omega
    have place : 53 ≤ steps.log2 := (Nat.le_log2 nonzero).mpr (Nat.le_of_not_lt small)
    have exponent : exponentFor steps = steps.log2 - 52 := if_neg small
    have step := twoTo_pos (exponentFor steps)
    constructor
    · have : steps / twoTo (exponentFor steps) < twoTo 53 := by
        rw [Nat.div_lt_iff_lt_mul step, exponent, ← twoTo_add]
        have : 53 + (steps.log2 - 52) = steps.log2 + 1 := by omega
        rw [this]
        exact lt_twoTo_log2 steps
      omega
    · right
      refine Nat.le_trans ?_ low
      rw [Nat.le_div_iff_mul_le step, exponent, ← twoTo_add]
      have : 52 + (steps.log2 - 52) = steps.log2 := by omega
      rw [this]
      exact twoTo_log2_le nonzero

/-- A ratio whose exponent is in range, and the next one too, gives a finite double. -/
theorem exists_finite_ofRatio (range : exponentFor (num * stepsInOne / den) ≤ 2044) :
    ∃ x, (ofRatio negative num den).finite? = some x := by
  obtain ⟨bits, full⟩ := significandFor_bounds num den
  rw [significandFor] at bits full
  simp only [ofRatio]
  split
  · exact exists_finite_ofParts (by decide) (by omega) (.inr (Nat.le_refl _))
  · exact exists_finite_ofParts (by omega) (by omega) full

end Double

/-! ## Whole numbers -/

/-- How far apart the doubles are that lie next to a whole number; up to 53 bits it is one of them. -/
def spacing (n : Nat) : Nat := twoTo (n.log2 - 52)

/-- The whole number that the double nearest to `n` is. -/
def nearestWhole (n : Nat) : Nat := roundRatio n (spacing n) * spacing n

theorem spacing_pos (n : Nat) : 0 < spacing n := twoTo_pos _

namespace Double

/-- The grid of a whole number goes with the place of its highest bit; 1022 is the place of one unit among
    the steps, less the 52 bits behind the highest. -/
theorem exponentFor_whole (nonzero : n ≠ 0) : exponentFor (n * stepsInOne / 1) = n.log2 + 1022 := by
  have place : (n * stepsInOne).log2 = n.log2 + 1074 := log2_mul_twoTo nonzero 1074
  have product : n * stepsInOne ≠ 0 := Nat.mul_ne_zero nonzero (Nat.ne_of_gt (twoTo_pos 1074))
  have large : ¬ n * stepsInOne < twoTo 53 := by
    have : 53 ≤ (n * stepsInOne).log2 := by omega
    exact Nat.not_lt.mpr ((Nat.le_log2 product).mp this)
  rw [Nat.div_one, exponentFor, if_neg large, place]
  omega

/-- On its grid a whole number becomes a whole number. -/
theorem magnitude_whole (nonzero : n ≠ 0) :
    significandFor n 1 * twoTo (exponentFor (n * stepsInOne / 1)) = nearestWhole n * stepsInOne := by
  rw [significandFor, exponentFor_whole nonzero, Nat.one_mul, nearestWhole, spacing, stepsInOne]
  by_cases long : 52 ≤ n.log2
  -- the grid is coarser than one
  · have grid : n.log2 + 1022 = n.log2 - 52 + 1074 := by omega
    rw [grid, twoTo_add, roundRatio_mul_right (twoTo_pos 1074), Nat.mul_assoc]
  -- it is finer than one, so nothing is rounded
  · have grid : 1074 = 52 - n.log2 + (n.log2 + 1022) := by omega
    have one : twoTo (n.log2 - 52) = 1 := by
      have : n.log2 - 52 = 0 := by omega
      rw [this]
      rfl
    have exact := roundRatio_of_dvd (Nat.one_pos) n
    rw [Nat.mul_one] at exact
    rw [one, exact, Nat.mul_one, grid, twoTo_add, ← Nat.mul_assoc]
    generalize twoTo (52 - n.log2) = k
    have positive := twoTo_pos (n.log2 + 1022)
    rw [roundRatio_of_dvd positive]

/-- The double nearest to a whole number is whole. -/
theorem truncate_ofRatio (nonzero : n ≠ 0) (h : (ofRatio negative n 1).finite? = some x) :
    x.truncate = if negative then -Int.ofNat (nearestWhole n) else Int.ofNat (nearestWhole n) := by
  obtain ⟨sign, magnitude⟩ := finite_ofRatio h
  rw [magnitude_whole nonzero] at magnitude
  have whole : x.magnitude / stepsInOne = nearestWhole n := by
    rw [magnitude]
    exact Nat.mul_div_cancel _ (twoTo_pos 1074)
  simp only [Finite.truncate, whole, sign]

/-- A whole number of at most 1023 bits is not beyond the largest double. -/
theorem exists_finite_whole (nonzero : n ≠ 0) (range : n.log2 ≤ 1022) :
    ∃ x, (ofRatio negative n 1).finite? = some x := by
  refine exists_finite_ofRatio ?_
  rw [exponentFor_whole nonzero]
  omega

end Double

/-- A numeral without fraction and exponent is the ratio of its value and one. -/
theorem Scaled.toDouble_whole (nonzero : n ≠ 0) :
    toDouble ⟨negative, n, 0⟩ = Double.ofRatio negative n 1 := by
  have one : tenTo (Int.toNat 0) = 1 := rfl
  have small : ¬ largestPower < 0 := by decide
  rw [toDouble, if_neg nonzero, if_pos (Int.le_refl 0), if_neg small, one, Nat.mul_one]

/-! ## Doubles among the whole numbers -/

/-- A number on its own grid is not rounded. -/
theorem nearestWhole_of_dvd (h : spacing n ∣ n) : nearestWhole n = n := by
  obtain ⟨q, onGrid⟩ := h
  rw [Nat.mul_comm] at onGrid
  have exact := roundRatio_of_dvd (spacing_pos n) q
  rw [← onGrid] at exact
  rw [nearestWhole, exact, ← onGrid]

/-- A number of 53 bits with zeros behind them lies on its own grid. -/
theorem spacing_dvd {k e : Nat} (bits : k < twoTo 53) : spacing (k * twoTo e) ∣ k * twoTo e := by
  by_cases zero : k = 0
  · rw [zero, Nat.zero_mul]
    exact Nat.dvd_zero _
  · have place : k.log2 < 53 := (Nat.log2_lt zero).mpr bits
    have coarser : (k * twoTo e).log2 - 52 ≤ e := by
      rw [log2_mul_twoTo zero]
      omega
    exact Nat.dvd_mul_left_of_dvd (Nat.pow_dvd_pow 2 coarser) k

/-- Rounding gives a double, also where it carries into the next bit. -/
theorem exists_nearestWhole (n : Nat) : ∃ k e, k < twoTo 53 ∧ nearestWhole n = k * twoTo e := by
  have below : n / spacing n < twoTo 53 := by
    rw [Nat.div_lt_iff_lt_mul (spacing_pos n), spacing, ← twoTo_add]
    exact Nat.lt_of_lt_of_le (lt_twoTo_log2 n) (Nat.pow_le_pow_right (by decide) (by omega))
  have bounds := roundRatio_bounds n (spacing n)
  -- 2^53 units do not fit into a significand, but half as many of twice the size do
  by_cases carried : roundRatio n (spacing n) = twoTo 53
  · refine ⟨twoTo 52, 1 + (n.log2 - 52), by decide, ?_⟩
    rw [nearestWhole, carried, twoTo_add, ← Nat.mul_assoc]
    rfl
  · exact ⟨roundRatio n (spacing n), n.log2 - 52, by omega, rfl⟩

/-- Rounding leaves alone what 53 bits hold, up to a power of two. -/
theorem nearestWhole_eq_self_iff : nearestWhole n = n ↔ ∃ k e, k < twoTo 53 ∧ n = k * twoTo e := by
  constructor
  · intro exact
    obtain ⟨k, e, bits, double⟩ := exists_nearestWhole n
    exact ⟨k, e, bits, exact.symm.trans double⟩
  · rintro ⟨k, e, bits, rfl⟩
    exact nearestWhole_of_dvd (spacing_dvd bits)

/-- No number of 53 bits with zeros behind them is closer to `n` than the one that it is rounded to. -/
theorem nearestWhole_nearest {k e : Nat} (bits : k < twoTo 53) :
    ((nearestWhole n : Nat) - n : Int).natAbs ≤ ((k * twoTo e : Nat) - n : Int).natAbs := by
  by_cases grid : n.log2 - 52 ≤ e
  -- on the grid of `n`
  · have multiple : k * twoTo e = k * twoTo (e - (n.log2 - 52)) * spacing n := by
      have shift : e = (e - (n.log2 - 52)) + (n.log2 - 52) := by omega
      rw [Nat.mul_assoc, spacing, ← twoTo_add, ← shift]
    rw [multiple]
    exact roundRatio_nearest (spacing_pos n) n _
  -- below it, and so further down than the least number with the bits of `n`
  · have nonzero : n ≠ 0 := by
      rintro rfl
      exact grid (Nat.zero_le e)
    have lowest : twoTo 52 * spacing n = twoTo n.log2 := by
      rw [spacing, ← twoTo_add]
      congr 1
      omega
    have small : k * twoTo e < twoTo n.log2 := by
      calc k * twoTo e < twoTo 53 * twoTo e := Nat.mul_lt_mul_of_pos_right bits (twoTo_pos e)
        _ = twoTo (53 + e) := (twoTo_add _ _).symm
        _ ≤ twoTo n.log2 := Nat.pow_le_pow_right (by decide) (by omega)
    have nearest := roundRatio_nearest (spacing_pos n) n (twoTo 52)
    rw [lowest] at nearest
    have within := twoTo_log2_le nonzero
    rw [nearestWhole]
    omega

/-- Rounding passes no power of two. -/
theorem le_nearestWhole {k : Nat} (h : twoTo k ≤ n) : twoTo k ≤ nearestWhole n := by
  have nearest := nearestWhole_nearest (n := n) (k := 1) (e := k) (by decide)
  rw [Nat.one_mul] at nearest
  omega

/-- Nor from below: a number up to a power of two is not rounded beyond it. -/
theorem nearestWhole_le {k : Nat} (h : n ≤ twoTo k) : nearestWhole n ≤ twoTo k := by
  have nearest := nearestWhole_nearest (n := n) (k := 1) (e := k) (by decide)
  rw [Nat.one_mul] at nearest
  omega

/-! ## Around 63 bits -/

/-- The place of the highest bit is all that counts. -/
theorem spacing_eq {k : Nat} (low : twoTo k ≤ n) (high : n < twoTo (k + 1)) :
    spacing n = twoTo (k - 52) := by
  have nonzero : n ≠ 0 := by
    have := twoTo_pos k
    omega
  rw [spacing, (Nat.log2_eq_iff nonzero).mpr ⟨low, high⟩]

/-- A whole number from 2^63 on becomes 2^63 up to half-way to the next double, the half included. -/
theorem nearestWhole_eq_iff (low : twoTo 63 ≤ n) : nearestWhole n = twoTo 63 ↔ n ≤ twoTo 63 + 1024 := by
  have bound : twoTo 63 = 9223372036854775808 := rfl
  have double : twoTo 64 = 2 * twoTo 63 := rfl
  -- one bit more and the number is at least 2^64, which rounding does not pass
  by_cases high : n < twoTo 64
  · have apart : spacing n = 2048 := spacing_eq low high
    rw [nearestWhole, apart, roundRatio]
    constructor
    · intro h
      split at h
      · omega
      · split at h <;> omega
    · intro h
      split
      · omega
      · split <;> omega
  · have := le_nearestWhole (Nat.le_of_not_lt high)
    omega

/-- A whole number below 2^63 becomes 2^63 from half-way on, the half included. -/
theorem nearestWhole_lt_iff (high : n < twoTo 63) : nearestWhole n < twoTo 63 ↔ n < twoTo 63 - 512 := by
  have bound : twoTo 63 = 9223372036854775808 := rfl
  have half : twoTo 62 = 4611686018427387904 := rfl
  -- one bit less and rounding stays at 2^62 or below
  by_cases low : twoTo 62 ≤ n
  · have apart : spacing n = 1024 := spacing_eq low high
    rw [nearestWhole, apart, roundRatio]
    constructor
    · intro h
      split at h
      · omega
      · split at h <;> omega
    · intro h
      split
      · omega
      · split <;> omega
  · have := nearestWhole_le (Nat.le_of_not_le low)
    omega

namespace Double

/-- A whole number of at most 1023 bits is read as a double, and the double as the nearest whole number. -/
theorem exists_truncate_whole (negative : Bool) (nonzero : n ≠ 0) (range : n.log2 ≤ 1022) :
    ∃ x, (ofRatio negative n 1).finite? = some x ∧
      x.truncate = if negative then -Int.ofNat (nearestWhole n) else Int.ofNat (nearestWhole n) := by
  obtain ⟨x, finite⟩ := exists_finite_whole nonzero range
  exact ⟨x, finite, truncate_ofRatio nonzero finite⟩

/-- Up to the half-way point the double is 2^63. -/
theorem exists_truncate_near (low : twoTo 63 ≤ n) (near : n ≤ twoTo 63 + 1024) :
    ∃ x, (ofRatio negative n 1).finite? = some x ∧
      x.truncate = if negative then -Int.ofNat (twoTo 63) else Int.ofNat (twoTo 63) := by
  have bound : twoTo 63 = 9223372036854775808 := rfl
  have nonzero : n ≠ 0 := by omega
  have place : n.log2 < 64 := (Nat.log2_lt nonzero).mpr (by omega)
  obtain ⟨x, finite, cut⟩ := exists_truncate_whole negative nonzero (by omega)
  refine ⟨x, finite, ?_⟩
  rw [cut, (nearestWhole_eq_iff low).mpr near]

/-- Above it the double is further away from zero, if it is finite at all. -/
theorem truncate_far (far : twoTo 63 + 1024 < n) (h : (ofRatio negative n 1).finite? = some x) :
    ∃ m, twoTo 63 < m ∧ x.truncate = if negative then -Int.ofNat m else Int.ofNat m := by
  have low : twoTo 63 ≤ n := by omega
  have nonzero : n ≠ 0 := by omega
  have least : twoTo 63 ≤ nearestWhole n := le_nearestWhole low
  have other : twoTo 63 ≠ nearestWhole n := by
    intro met
    have := (nearestWhole_eq_iff low).mp met.symm
    omega
  exact ⟨nearestWhole n, Nat.lt_of_le_of_ne least other, truncate_ofRatio nonzero h⟩

end Double

end TraceQuery.Decimal
