/-
  Values bound to placeholders.

  `ParamValue.same` is the equality under which a name may be bound twice: the same kind of value
  with the same content, where numbers are equal as numbers.  So the two zeros are the same, and a
  value that is not a number differs from itself.

  Mathlib-free.
-/
import TraceQuery.Decimal.Double

namespace TraceQuery

open TraceQuery.Decimal (Double)

/-- A value that stands for a placeholder. -/
inductive ParamValue where
  | string (text : String)
  | int (value : Int)
  | float (value : Double)
  | strings (texts : List String)
deriving DecidableEq

/-- Equality of bound values. -/
def ParamValue.same : ParamValue → ParamValue → Bool
  | string a, string b => a == b
  | int a, int b => a == b
  | float a, float b => a.same b
  | strings a, strings b => a == b
  | _, _ => false

/-- Tells whether the value is not a number. -/
def ParamValue.isNotANumber : ParamValue → Bool
  | float .notANumber => true
  | _ => false

/-- A value may be bound twice to one name unless it is no number. -/
theorem ParamValue.same_self_iff {v : ParamValue} : v.same v = true ↔ v.isNotANumber = false := by
  cases v with
  | float d => cases d <;> simp [same, isNotANumber, Double.same_self_iff]
  | _ => simp [same, isNotANumber]

/-- Equality of bound values is symmetric. -/
theorem ParamValue.same_comm (v w : ParamValue) : v.same w = w.same v := by
  cases v <;> cases w <;> simp only [same]
  · exact Bool.beq_comm
  · exact Bool.beq_comm
  · exact Double.same_comm _ _
  · exact Bool.beq_comm

/-- Only doubles can be the same without being equal. -/
theorem ParamValue.eq_or_float_of_same {a b : ParamValue} (h : a.same b = true) :
    a = b ∨ ∃ x y, a = float x ∧ b = float y ∧ x.same y = true := by
  cases a <;> cases b <;> simp_all [same]

/-- Equality of bound values is transitive. -/
theorem ParamValue.same_trans {a b c : ParamValue} (hab : a.same b = true) (hbc : b.same c = true) :
    a.same c = true := by
  -- two doubles are the only case in which being the same is not being equal
  rcases eq_or_float_of_same hab with rfl | ⟨x, y, rfl, rfl, hxy⟩
  · exact hbc
  · rcases eq_or_float_of_same hbc with rfl | ⟨_, z, hy, rfl, hyz⟩
    · exact hab
    · cases hy
      exact Double.same_trans hxy hyz

end TraceQuery
