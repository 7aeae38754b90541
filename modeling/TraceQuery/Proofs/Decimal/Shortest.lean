/-
  The shortest decimal is read back.

  1. **One grid** (`holds_of_onGrid`): what is taken from a grid lies in the interval.
  2. **The last grid** (`exists_onGrid`): a double is a multiple of 10^-1074 itself.
  3. **The search** (`covers_search`): it ends with a decimal of the interval, because the last grid has one.

  So the shortest decimal of a double that is not zero is read as this double (`toDouble_shortest`), whichever
  of two equally near decimals is taken.

  Mathlib-free.
-/
import TraceQuery.Proofs.Decimal.Nearest

namespace TraceQuery.Decimal

namespace Finite

variable {x : Finite} {tie : Tie} {g : Grid} {c : Nat}

/-! ## Grids -/

/-- What is taken from a grid lies in the interval.  Both candidates next to the double have been asked,
    and the tie only chooses between two that passed. -/
theorem holds_of_onGrid (h : x.onGrid tie g = some c) : x.interval.holds (c * g.num) g.den = true := by
  simp only [onGrid] at h
  generalize 4 * x.magnitude * g.den / g.num = floor at h
  split at h
  · rename_i both
    obtain ⟨lower, upper⟩ := Bool.and_eq_true_iff.mp both
    split at h
    · exact Option.some.inj h ▸ lower
    · split at h
      · exact Option.some.inj h ▸ upper
      · cases tie with
        | even =>
          rw [← Option.some.inj h]
          rcases Nat.mod_two_eq_zero_or_one floor with even | odd
          · rw [even]
            exact lower
          · rw [odd]
            exact upper
        | up => exact Option.some.inj h ▸ upper
  · split at h
    · rename_i lower
      exact Option.some.inj h ▸ lower
    · split at h
      · rename_i upper
        exact Option.some.inj h ▸ upper
      · cases h

/-- A double lies in its own interval. -/
theorem holds_magnitude (nonzero : x.significand ≠ 0) {den : Nat} (positive : 0 < den) :
    x.interval.holds (4 * x.magnitude * den) den = true := by
  have low : x.interval.low < 4 * x.magnitude := by
    have step := twoTo_pos x.exponent
    have some : twoTo x.exponent ≤ x.magnitude := Nat.le_mul_of_pos_left _ (Nat.pos_of_ne_zero nonzero)
    simp only [interval]
    split <;> omega
  have high : 4 * x.magnitude < x.interval.high := by
    have step := twoTo_pos x.exponent
    simp only [interval]
    omega
  have above := Nat.mul_lt_mul_of_pos_right low positive
  have below := Nat.mul_lt_mul_of_pos_right high positive
  simp [Interval.holds, above, below, Nat.le_of_lt]

/-- A grid that has the double has a hit. -/
theorem exists_onGrid (nonzero : x.significand ≠ 0) {num den : Nat} (positive : 0 < den)
    (multiple : num ∣ 4 * x.magnitude * den) : ∃ c, x.onGrid tie ⟨num, den⟩ = some c := by
  -- the candidate below is the double itself
  have lower : x.interval.holds (4 * x.magnitude * den / num * num) den = true := by
    rw [Nat.div_mul_cancel multiple]
    exact holds_magnitude nonzero positive
  simp only [onGrid, lower, Bool.true_and, if_true]
  split
  · split
    · exact ⟨_, rfl⟩
    · split
      · exact ⟨_, rfl⟩
      · cases tie <;> exact ⟨_, rfl⟩
  · exact ⟨_, rfl⟩

/-- The last grid of the search, in units of 10^-1074, has every double on it. -/
theorem exists_onGrid_last (nonzero : x.significand ≠ 0) : ∃ c, x.onGrid tie (gridAt (-1074)) = some c := by
  have last : gridAt (-1074) = ⟨4 * stepsInOne, tenTo 1074⟩ := if_neg (by decide)
  have multiple : 4 * x.magnitude * tenTo 1074 = 4 * stepsInOne * (x.magnitude * fiveTo 1074) := by
    rw [← fiveTo_mul_twoTo, ← stepsInOne, Nat.mul_assoc, Nat.mul_assoc, Nat.mul_comm (fiveTo _),
      Nat.mul_left_comm x.magnitude]
  rw [last]
  exact exists_onGrid nonzero (tenTo_pos 1074) ⟨_, multiple⟩

/-! ## The search -/

/-- The search ends in the interval if its last grid has a hit. -/
theorem covers_search {count : Nat} {power : Int}
    (last : ∃ c, x.onGrid tie (gridAt (power - count)) = some c) :
    x.Covers (x.search tie count power).digits (x.search tie count power).power := by
  -- on the number of grids that are left; the last one stays the same while the power falls
  induction count generalizing power with
  | zero =>
    obtain ⟨c, hit⟩ := last
    rw [Int.natCast_zero, Int.sub_zero] at hit
    rw [search, hit]
    exact holds_of_onGrid hit
  | succ count ih =>
    rw [search]
    cases here : x.onGrid tie (gridAt power) with
    | some c => exact holds_of_onGrid here
    | none =>
      refine ih ?_
      have same : power - 1 - count = power - (count + 1 : Nat) := by omega
      rw [same]
      exact last

/-- The shortest decimal stands for its double. -/
theorem covers_shortest (nonzero : x.significand ≠ 0) :
    x.Covers (x.shortest tie).digits (x.shortest tie).power := by
  -- the search starts at the last grid or above it, and has as many steps as lie between
  have start : -1074 ≤ x.startPower := by
    simp only [startPower, Int.ofNat_eq_natCast]
    omega
  have last : x.startPower - (x.startPower + 1074).toNat = -1074 := by omega
  refine covers_search ?_
  rw [last]
  exact exists_onGrid_last nonzero

/-- The shortest decimal of a double is read as this double. -/
theorem toDouble_shortest (nonzero : x.significand ≠ 0) :
    Scaled.toDouble ⟨x.negative, (x.shortest tie).digits, (x.shortest tie).power⟩ = .finite x :=
  (covers_shortest nonzero).toDouble nonzero

end Finite

end TraceQuery.Decimal
