/-
  Which decimals are read as a double.

  `Finite.interval` has the decimals that stand for a double.  Here it is proved that they are read as it.

  1. **Rounding** (`roundRatio_eq`): a ratio less than half away from a whole number is rounded to it, and
     half away if it is even.
  2. **Grids** (`exponentFor_eq`): from 2^52 up to 2^53 steps of a grid the ratio is rounded on this grid.
  3. **Ratios** (`ofRatio_of_holds`): so a ratio in the interval of a double gives the double.  Only the
     ratios right below a power of two lie on the next finer grid; they are rounded up to 2^53 steps of it,
     and the exponent is carried (`ofRatio_of_below`).
  4. **Decimals** (`Covers.toDouble`): a decimal in the interval is within the powers of ten that are
     read with all their digits.

  Mathlib-free.
-/
import TraceQuery.Decimal.Shortest
import TraceQuery.Proofs.Decimal.Exact

namespace TraceQuery.Decimal

/-! ## Powers -/

theorem twoTo_le_twoTo {m n : Nat} : twoTo m ≤ twoTo n ↔ m ≤ n := Nat.pow_le_pow_iff_right (by decide)

theorem tenTo_le_tenTo {m n : Nat} (h : m ≤ n) : tenTo m ≤ tenTo n := Nat.pow_le_pow_right (by decide) h

/-- A decimal digit is worth more than three bits. -/
theorem twoTo_le_tenTo (n : Nat) : twoTo (3 * n) ≤ tenTo n :=
  calc twoTo (3 * n) = Nat.pow 8 n := Nat.pow_mul 2 3 n
    _ ≤ tenTo n := Nat.pow_le_pow_left (by decide) n

/-! ## Rounding -/

/-- A ratio at most half away from a whole number is rounded to it, unless it is odd and half away. -/
theorem roundRatio_eq {num den q : Nat} (positive : 0 < den) (low : 2 * (q * den) ≤ 2 * num + den)
    (high : 2 * num ≤ 2 * (q * den) + den)
    (odd : q % 2 = 1 → 2 * (q * den) < 2 * num + den ∧ 2 * num < 2 * (q * den) + den) :
    roundRatio num den = q := by
  have split : num / den * den + num % den = num := Nat.div_add_mod' num den
  have rest : num % den < den := Nat.mod_lt num positive
  -- the whole number is one of the two around the ratio
  have next : num / den = q ∨ num / den + 1 = q := by
    rcases Nat.lt_trichotomy (num / den) q with below | same | above
    · refine .inr (Nat.le_antisymm below (Nat.le_of_not_lt fun further => ?_))
      have gap : (num / den + 2) * den ≤ q * den := Nat.mul_le_mul_right den further
      rw [Nat.add_mul] at gap
      omega
    · exact .inl same
    · have gap : (q + 1) * den ≤ num / den * den := Nat.mul_le_mul_right den above
      rw [Nat.succ_mul] at gap
      omega
  have product : num / den + 1 = q → q * den = num / den * den + den := by
    rintro rfl
    exact Nat.succ_mul _ _
  have same : num / den = q → q * den = num / den * den := by
    rintro rfl
    rfl
  simp only [roundRatio]
  split
  · omega
  · split
    · omega
    · omega

/-- From 2^52 up to 2^53 units of a grid, a ratio is rounded on this grid. -/
theorem exponentFor_eq {steps den k : Nat} (positive : 0 < den)
    (full : k = 0 ∨ twoTo 52 * (den * twoTo k) ≤ steps) (bits : steps < twoTo 53 * (den * twoTo k)) :
    Double.exponentFor (steps / den) = k := by
  have shift (n : Nat) : twoTo n * (den * twoTo k) = twoTo (n + k) * den := by
    rw [twoTo_add, Nat.mul_comm den, Nat.mul_assoc]
  rw [shift, ← Nat.div_lt_iff_lt_mul positive] at bits
  by_cases finest : k = 0
  · subst finest
    exact if_pos bits
  · replace full := full.resolve_left finest
    rw [shift, ← Nat.le_div_iff_mul_le positive] at full
    have nonzero : steps / den ≠ 0 := Nat.ne_of_gt (Nat.lt_of_lt_of_le (twoTo_pos _) full)
    have place : (steps / den).log2 = 52 + k :=
      (Nat.log2_eq_iff nonzero).mpr ⟨full, by rw [Nat.add_right_comm]; exact bits⟩
    have coarse : twoTo 53 ≤ twoTo (52 + k) := twoTo_le_twoTo.mpr (by omega)
    rw [Double.exponentFor, if_neg (Nat.not_lt.mpr (Nat.le_trans coarse full)), place]
    omega

/-! ## Ratios -/

/-- What lies in an interval is within its ends, and strictly so if they do not belong to it. -/
theorem Interval.bounds_of_holds {i : Interval} {num den : Nat} (h : i.holds num den = true) :
    i.low * den ≤ num ∧ num ≤ i.high * den ∧
      (i.closed = false → i.low * den < num ∧ num < i.high * den) := by
  unfold holds at h
  split at h
  · rename_i closed
    simp only [Bool.and_eq_true, decide_eq_true_eq] at h
    exact ⟨h.1, h.2, fun other => by rw [closed] at other; cases other⟩
  · simp only [Bool.and_eq_true, decide_eq_true_eq] at h
    exact ⟨Nat.le_of_lt h.1, Nat.le_of_lt h.2, fun _ => h⟩

/-- The interval sees only the ratio. -/
theorem Interval.holds_mul_right (i : Interval) {k : Nat} (positive : 0 < k) (num den : Nat) :
    i.holds (num * k) (den * k) = i.holds num den := by
  have le {a b : Nat} : a * k ≤ b * k ↔ a ≤ b := Nat.mul_le_mul_right_iff positive
  have lt {a b : Nat} : a * k < b * k ↔ a < b := Nat.mul_lt_mul_right positive
  simp only [holds, ← Nat.mul_assoc, le, lt]

namespace Finite

variable {x : Finite} {num den steps : Nat}

/-- The interval reaches half a step of the grid of the double to both sides, but only a quarter below the
    first double of an exponent. -/
theorem bounds_of_holds (nonzero : x.significand ≠ 0) (h : x.interval.holds (4 * steps) den = true) :
    let unit := den * twoTo x.exponent
    2 * (x.significand * unit) ≤ 2 * steps + unit ∧ 2 * steps ≤ 2 * (x.significand * unit) + unit ∧
      (x.significand % 2 = 1 →
        2 * (x.significand * unit) < 2 * steps + unit ∧ 2 * steps < 2 * (x.significand * unit) + unit) ∧
      (x.significand = twoTo 52 ∧ 0 < x.exponent → 4 * (x.significand * unit) ≤ 4 * steps + unit) := by
  intro unit
  have magnitude : x.magnitude * den = x.significand * unit := by
    rw [Finite.magnitude, Nat.mul_assoc, Nat.mul_comm (twoTo _)]
  have gap : twoTo x.exponent * den = unit := Nat.mul_comm _ _
  have odd : x.significand % 2 = 1 → x.interval.closed = false := by
    intro odd
    simp [interval, odd]
  have high : x.interval.high * den = 4 * (x.significand * unit) + 2 * unit := by
    rw [interval, Nat.add_mul, Nat.mul_assoc, Nat.mul_assoc, magnitude, gap]
  obtain ⟨aboveLow, belowHigh, strict⟩ := Interval.bounds_of_holds h
  rw [high] at belowHigh strict
  -- below the first double of an exponent the neighbour is only half a step away
  by_cases first : x.significand = twoTo 52 ∧ 0 < x.exponent
  · have low : x.interval.low * den = 4 * (x.significand * unit) - unit := by
      simp only [interval, if_pos first, Nat.sub_mul, Nat.mul_assoc, magnitude, gap]
    rw [low] at aboveLow
    -- such a significand is even, so the ends belong to the interval there
    have even : ¬ x.significand % 2 = 1 := by
      rw [first.1]
      decide
    refine ⟨by omega, by omega, fun odd => absurd odd even, fun _ => by omega⟩
  · have low : x.interval.low * den = 4 * (x.significand * unit) - 2 * unit := by
      simp only [interval, if_neg first, Nat.sub_mul, Nat.mul_assoc, magnitude, gap]
    rw [low] at aboveLow strict
    have some : unit ≤ x.significand * unit := Nat.le_mul_of_pos_left _ (Nat.pos_of_ne_zero nonzero)
    refine ⟨by omega, by omega, fun isOdd => ?_, fun isFirst => absurd isFirst first⟩
    have := strict (odd isOdd)
    omega

/-- A ratio that is rounded up to 2^53 gives the first double of the next exponent. -/
theorem ofRatio_of_carried {k : Nat} (first : x.significand = twoTo 52) (next : x.exponent = k + 1)
    (grid : Double.exponentFor (num * stepsInOne / den) = k)
    (carried : roundRatio (num * stepsInOne) (den * twoTo k) = twoTo 53) :
    Double.ofRatio x.negative num den = .finite x := by
  have fits := x.fits
  simp only [Double.ofRatio, grid, carried, if_true]
  rw [← first, ← next, Double.ofParts, dif_pos fits]

/-- Right below the first double of an exponent the grid is half as wide. -/
theorem ofRatio_of_below (positive : 0 < den) (first : x.significand = twoTo 52) (coarse : x.exponent ≠ 0)
    (near : 4 * (twoTo 52 * (den * twoTo x.exponent)) ≤ 4 * (num * stepsInOne) + den * twoTo x.exponent)
    (below : num * stepsInOne < twoTo 52 * (den * twoTo x.exponent)) :
    Double.ofRatio x.negative num den = .finite x := by
  obtain ⟨k, exponent⟩ := Nat.exists_eq_succ_of_ne_zero coarse
  have twice : den * twoTo x.exponent = 2 * (den * twoTo k) := by
    rw [exponent, Nat.succ_eq_add_one, Nat.add_comm, twoTo_add, Nat.mul_left_comm]
    rfl
  have half : 2 * (twoTo 52 * (den * twoTo k)) = twoTo 53 * (den * twoTo k) := (Nat.mul_assoc 2 _ _).symm
  -- 2^52 units of the wide grid are 2^53 of the narrow one
  have same : twoTo 52 * (den * twoTo x.exponent) = twoTo 53 * (den * twoTo k) := by
    rw [twice, Nat.mul_left_comm, half]
  rw [same] at below
  rw [same, twice] at near
  have finer : 0 < den * twoTo k := Nat.mul_pos positive (twoTo_pos _)
  have some : den * twoTo k ≤ twoTo 52 * (den * twoTo k) := Nat.le_mul_of_pos_left _ (twoTo_pos 52)
  have grid : Double.exponentFor (num * stepsInOne / den) = k :=
    exponentFor_eq positive (.inr (by omega)) (by omega)
  have carried : roundRatio (num * stepsInOne) (den * twoTo k) = twoTo 53 :=
    roundRatio_eq finer (by omega) (by omega) fun odd => absurd odd (by decide)
  exact ofRatio_of_carried first exponent grid carried

/-- A ratio in the interval of a double gives this double. -/
theorem ofRatio_of_holds (nonzero : x.significand ≠ 0) (positive : 0 < den)
    (h : x.interval.holds (4 * (num * stepsInOne)) den = true) :
    Double.ofRatio x.negative num den = .finite x := by
  obtain ⟨low, high, odd, quarter⟩ := bounds_of_holds nonzero h
  obtain ⟨bits, _, full⟩ := x.fits
  have unit : 0 < den * twoTo x.exponent := Nat.mul_pos positive (twoTo_pos _)
  have next : (x.significand + 1) * (den * twoTo x.exponent) ≤ twoTo 53 * (den * twoTo x.exponent) :=
    Nat.mul_le_mul_right _ bits
  rw [Nat.succ_mul] at next
  -- either the ratio lies on the grid of the double or right below the first one of its exponent
  by_cases reached : x.exponent = 0 ∨ twoTo 52 * (den * twoTo x.exponent) ≤ num * stepsInOne
  · exact ofRatio_of_rounded (exponentFor_eq positive reached (by omega)) (roundRatio_eq unit low high odd)
  · obtain ⟨coarse, below⟩ := not_or.mp reached
    -- only the first double of an exponent has ratios below 2^52 units
    have first : x.significand = twoTo 52 := by
      refine Nat.le_antisymm (Nat.le_of_not_lt fun further => below ?_) (full.resolve_left coarse)
      have gap : (twoTo 52 + 1) * (den * twoTo x.exponent) ≤ x.significand * (den * twoTo x.exponent) :=
        Nat.mul_le_mul_right _ further
      rw [Nat.succ_mul] at gap
      omega
    have near := quarter ⟨first, Nat.pos_of_ne_zero coarse⟩
    rw [first] at near
    exact ofRatio_of_below positive first coarse near (Nat.not_le.mp below)

end Finite

/-! ## Decimals -/

namespace Finite

variable {x : Finite} {c : Nat} {power : Int}

/-- The decimal `c * 10^power` lies in the interval of a double. -/
def Covers (x : Finite) (c : Nat) (power : Int) : Prop :=
  x.interval.holds (c * (gridAt power).num) (gridAt power).den = true

/-- A decimal without a fraction is compared as the whole number that it is. -/
theorem covers_whole (whole : 0 ≤ power) : x.Covers c power ↔
    x.interval.holds (4 * (c * tenTo power.toNat * stepsInOne)) 1 = true := by
  have same (s t : Nat) : c * (4 * s * t) = 4 * (c * t * s) := by ac_rfl
  rw [Covers, gridAt, if_pos whole, same]

/-- A decimal with a fraction is compared as the ratio of its digits and a power of ten. -/
theorem covers_fraction (below : power < 0) : x.Covers c power ↔
    x.interval.holds (4 * (c * stepsInOne)) (tenTo (-power).toNat) = true := by
  have same : c * (4 * stepsInOne) = 4 * (c * stepsInOne) := Nat.mul_left_comm _ _ _
  rw [Covers, gridAt, if_neg (Int.not_le.mpr below), same]

/-- The same decimal with a digit behind the point. -/
theorem Covers.tenth (h : x.Covers c power) (whole : 0 ≤ power) :
    x.Covers (c * tenTo power.toNat * 10) (-1) := by
  have same (n s : Nat) : 4 * (n * 10 * s) = 4 * (n * s) * 10 := by ac_rfl
  have one : tenTo (- -1 : Int).toNat = 1 * 10 := rfl
  rw [covers_fraction (by decide), same, one, Interval.holds_mul_right _ (by decide)]
  exact (covers_whole whole).mp h

/-- The interval of a double that is not zero begins above zero. -/
theorem low_pos (nonzero : x.significand ≠ 0) : 0 < x.interval.low := by
  have step := twoTo_pos x.exponent
  have some : twoTo x.exponent ≤ x.magnitude := Nat.le_mul_of_pos_left _ (Nat.pos_of_ne_zero nonzero)
  simp only [interval]
  split <;> omega

/-- The digits of a decimal in the interval are not all zero. -/
theorem Covers.ne_zero (h : x.Covers c power) (nonzero : x.significand ≠ 0) : c ≠ 0 := by
  have den : 0 < (gridAt power).den := by
    unfold gridAt
    split
    · exact Nat.one_pos
    · exact tenTo_pos _
  have above := (Interval.bounds_of_holds h).1
  have some : 0 < x.interval.low * (gridAt power).den := Nat.mul_pos (low_pos nonzero) den
  rintro rfl
  rw [Nat.zero_mul] at above
  omega

/-- The largest double has 2098 bits, and its interval is measured in quarters. -/
theorem high_le (x : Finite) : x.interval.high ≤ twoTo 2100 := by
  obtain ⟨bits, range, _⟩ := x.fits
  have quarters : twoTo 55 = 4 * twoTo 53 := rfl
  calc x.interval.high = (4 * x.significand + 2) * twoTo x.exponent := by
        rw [interval, magnitude, Nat.add_mul, Nat.mul_assoc]
    _ ≤ twoTo 55 * twoTo 2045 :=
        Nat.mul_le_mul (by omega) (twoTo_le_twoTo.mpr range)
    _ = twoTo 2100 := (twoTo_add 55 2045).symm

/-- A whole number times a larger power of ten would be beyond the largest double. -/
theorem power_le_of_holds {digits : Nat} (some : c ≠ 0)
    (held : x.interval.holds (4 * (c * tenTo digits * stepsInOne)) 1 = true) : digits ≤ 400 := by
  refine Nat.not_lt.mp fun beyond => ?_
  have below := (Interval.bounds_of_holds held).2.1
  rw [Nat.mul_one] at below
  have large : twoTo 1203 * stepsInOne ≤ c * tenTo digits * stepsInOne :=
    Nat.mul_le_mul_right _ (calc twoTo 1203 ≤ tenTo 401 := twoTo_le_tenTo 401
      _ ≤ tenTo digits := tenTo_le_tenTo beyond
      _ ≤ c * tenTo digits := Nat.le_mul_of_pos_left _ (Nat.pos_of_ne_zero some))
  have reached : twoTo (1203 + 1074) ≤ twoTo 2100 :=
    calc twoTo (1203 + 1074) = twoTo 1203 * stepsInOne := by rw [stepsInOne, twoTo_add]
      _ ≤ 4 * (c * tenTo digits * stepsInOne) :=
        Nat.le_trans large (Nat.le_mul_of_pos_left _ (by decide))
      _ ≤ twoTo 2100 := Nat.le_trans below (high_le x)
  have := twoTo_le_twoTo.mp reached
  omega

/-- A fraction with as many places as `Scaled.vanishes` asks for would be below the smallest double. -/
theorem visible_of_holds {digits : Nat} (nonzero : x.significand ≠ 0)
    (held : x.interval.holds (4 * (c * stepsInOne)) (tenTo digits) = true) :
    Scaled.vanishes c digits = false := by
  rw [Scaled.vanishes, decide_eq_false_iff_not]
  intro tiny
  have long : tenTo digits ≤ 4 * (c * stepsInOne) :=
    Nat.le_trans (Nat.le_mul_of_pos_left _ (low_pos nonzero)) (Interval.bounds_of_holds held).1
  have bits : c * stepsInOne < twoTo (c.log2 + 1) * stepsInOne :=
    Nat.mul_lt_mul_of_pos_right (lt_twoTo_log2 c) (twoTo_pos 1074)
  have short : 4 * (c * stepsInOne) < tenTo digits :=
    calc 4 * (c * stepsInOne) < 4 * (twoTo (c.log2 + 1) * stepsInOne) :=
          Nat.mul_lt_mul_of_pos_left bits (by decide)
      _ = twoTo (2 + (c.log2 + 1 + 1074)) := by rw [twoTo_add 2, twoTo_add _ 1074]; rfl
      _ ≤ twoTo (3 * digits) := twoTo_le_twoTo.mpr (by omega)
      _ ≤ tenTo digits := twoTo_le_tenTo _
  omega

/-- A decimal in the interval of a double is read as this double. -/
theorem Covers.toDouble (h : x.Covers c power) (nonzero : x.significand ≠ 0) :
    Scaled.toDouble ⟨x.negative, c, power⟩ = .finite x := by
  have some : c ≠ 0 := h.ne_zero nonzero
  -- the reader of decimals has a bound for powers above zero and another for those below
  by_cases whole : 0 ≤ power
  · have held := (covers_whole whole).mp h
    have within : ¬ Scaled.largestPower < power := by
      have := power_le_of_holds some held
      rw [Scaled.largestPower]
      omega
    rw [Scaled.toDouble, if_neg some, if_pos whole, if_neg within]
    exact ofRatio_of_holds nonzero Nat.one_pos held
  · have held := (covers_fraction (Int.not_le.mp whole)).mp h
    rw [Scaled.toDouble, if_neg some, if_neg whole]
    show (if Scaled.vanishes c (-power).toNat then _ else _) = _
    rw [visible_of_holds nonzero held, if_neg Bool.false_ne_true]
    exact ofRatio_of_holds nonzero (tenTo_pos _) held

end Finite

end TraceQuery.Decimal
