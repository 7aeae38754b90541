/-
  Numbers of double precision, by value.

  A finite double is a sign, a significand below 2^53 and an exponent; its magnitude is
  `significand * 2^exponent` steps of 2^-1074, the smallest double.  Every magnitude has one form:
  the exponent is 0, or the significand has all 53 bits (`Finite.fits`), so two finite doubles are
  the same bit pattern exactly when they are equal as values of the type.  Zero keeps its sign.

  `Double.same` is equality of numbers instead: the two zeros are the same number, and a value that
  is not a number is not even the same as itself.

  Nothing here is computed with machine numbers.  A double is read by rounding once, written by a search
  on exact grids, and cut off to an integer by one division, all on natural numbers, so each of these
  can be compared with the number that a text denotes.  Powers are written `twoTo` and `tenTo`, so
  that no tactic evaluates one of a thousand bits by itself.

  Mathlib-free.
-/
namespace TraceQuery.Decimal

/-! ## Powers -/

/-- A power of two. -/
def twoTo (n : Nat) : Nat := Nat.pow 2 n

/-- A power of ten. -/
def tenTo (n : Nat) : Nat := Nat.pow 10 n

theorem twoTo_pos (n : Nat) : 0 < twoTo n := Nat.pow_pos (by decide)

theorem tenTo_pos (n : Nat) : 0 < tenTo n := Nat.pow_pos (by decide)

/-! ## The type -/

/-- A finite double: `± significand * 2^exponent` steps of 2^-1074. -/
structure Finite where
  negative : Bool
  significand : Nat
  exponent : Nat
  fits : significand < twoTo 53 ∧ exponent ≤ 2045 ∧ (exponent = 0 ∨ twoTo 52 ≤ significand)
deriving DecidableEq

/-- A double: one of the finite ones, an infinity, or no number. -/
inductive Double where
  | notANumber
  | infinite (negative : Bool)
  | finite (value : Finite)
deriving DecidableEq

/-- How many of the smallest steps make one. -/
def stepsInOne : Nat := twoTo 1074

namespace Finite

/-- The distance from zero, in steps of 2^-1074. -/
def magnitude (x : Finite) : Nat := x.significand * twoTo x.exponent

/-- Tells whether this is one of the two zeros. -/
def isZero (x : Finite) : Bool := x.significand == 0

/-- The zero with this sign. -/
def zero (negative : Bool) : Finite := ⟨negative, 0, 0, by decide⟩

/-- The integer next to `x` in the direction of zero. -/
def truncate (x : Finite) : Int :=
  let n := x.magnitude / stepsInOne
  if x.negative then -Int.ofNat n else Int.ofNat n

theorem significand_lt (x : Finite) : x.significand < twoTo 53 := x.fits.1

end Finite

namespace Double

/-- Tells whether this is a number other than the infinities. -/
def isFinite : Double → Bool
  | .finite _ => true
  | _ => false

/-- The finite value, if there is one. -/
def finite? : Double → Option Finite
  | .finite x => some x
  | _ => none

/-- Equality of numbers. -/
def same : Double → Double → Bool
  | .notANumber, _ => false
  | _, .notANumber => false
  | .infinite a, .infinite b => a == b
  | .finite x, .finite y => (x.isZero && y.isZero) || x == y
  | _, _ => false

/-- Equality of numbers is reflexive but for the value that is no number. -/
theorem same_self_iff {d : Double} : d.same d = true ↔ d ≠ .notANumber := by
  cases d <;> simp [same]

/-- Equality of numbers is symmetric. -/
theorem same_comm (c d : Double) : c.same d = d.same c := by
  cases c <;> cases d <;> simp only [same]
  · exact Bool.beq_comm
  · rw [Bool.and_comm, Bool.beq_comm]

/-- Equality of numbers is transitive: what is in the middle is a number, and two zeros may stand for one
    another. -/
theorem same_trans {a b c : Double} (hab : a.same b = true) (hbc : b.same c = true) :
    a.same c = true := by
  cases a with
  | notANumber => cases hab
  | infinite s =>
    cases b with
    | infinite t => rw [eq_of_beq (show (s == t) = true from hab)]; exact hbc
    | _ => cases hab
  | finite x =>
    cases b with
    | finite y =>
      cases c with
      | finite z =>
        simp only [same, Bool.or_eq_true, Bool.and_eq_true, beq_iff_eq] at *
        -- on finite numbers both equalities are by zeros or by the bit pattern, in any combination
        rcases hab with ⟨hx, hy⟩ | rfl
        · rcases hbc with ⟨_, hz⟩ | rfl
          · exact .inl ⟨hx, hz⟩
          · exact .inl ⟨hx, hy⟩
        · exact hbc
      | _ => cases hbc
    | _ => cases hab

end Double

end TraceQuery.Decimal
