/-
  Parameters in two parts, and under other names.

  1. **Parts** (`Parameters.only`): binding looks at one name at a time, so the names with a property are
     bound as if there were no others (`Parameters.bindAll_only`).  Where the bindings of both parts can be
     made, all of them can, in whatever order they are mixed (`Parameters.exists_bindAll`).
  2. **Other names** (`Parameters.rename`): where the new names are those of another map, beside the same
     values, renaming gives that map (`Parameters.rename_eq_of_perm`).

  Mathlib-free.
-/
import TraceQuery.Proofs.Query.Values

namespace TraceQuery

namespace Parameters

variable {p q : Parameters} {P : String → Bool} {name : String} {value : ParamValue}

/-! ## Parts -/

/-- The entries whose names have a property. -/
def only (P : String → Bool) (p : Parameters) : Parameters :=
  ⟨p.entries.filter fun b => P b.1, p.ordered.filter _⟩

theorem mem_only {b : Binding} : b ∈ (p.only P).entries ↔ b ∈ p.entries ∧ P b.1 = true :=
  List.mem_filter

/-- A name of the part has the value there that it has in the whole. -/
theorem find?_only (h : P name = true) : (p.only P).find? name = p.find? name := by
  refine Option.ext fun v => ?_
  rw [find?_eq_some_iff, find?_eq_some_iff, mem_only]
  exact and_iff_left h

/-- Inserting a name of the part may be done before or after taking the part. -/
theorem only_insert (h : P name = true) (fresh : name ∉ p.names) :
    (p.insert name value).only P = (p.only P).insert name value := by
  have fresh' : name ∉ (p.only P).names := by
    rw [← find?_eq_none_iff, find?_only h, find?_eq_none_iff]
    exact fresh
  refine eq_of_mem fun b => ?_
  have whole : b ∈ (p.insert name value).entries ↔ b = (name, value) ∨ b ∈ p.entries :=
    mem_insertBinding fresh
  have part : b ∈ ((p.only P).insert name value).entries ↔ b = (name, value) ∨ b ∈ (p.only P).entries :=
    mem_insertBinding fresh'
  rw [mem_only, whole, part, mem_only, or_and_right]
  refine or_congr_left (and_iff_left_of_imp ?_)
  rintro rfl
  exact h

/-- A name of the part is bound in the part as in the whole. -/
theorem bind_only (h : P name = true) (p : Parameters) (value : ParamValue) :
    (p.only P).bind name value = (p.bind name value).map (only P) := by
  rw [bind, find?_only h, bind]
  cases found : p.find? name with
  | none => exact congrArg Except.ok (only_insert h (find?_eq_none_iff.mp found)).symm
  | some old =>
    show (if old.same value then _ else _) = Except.map _ (if old.same value then _ else _)
    split <;> rfl

/-- A name of the other part leaves the part as it is. -/
theorem only_of_bind (h : P name = false) (bound : p.bind name value = .ok q) :
    q.only P = p.only P := by
  refine eq_of_mem fun b => ?_
  rw [mem_only, mem_only]
  rw [bind] at bound
  split at bound
  · rename_i found
    rw [← Except.ok.inj bound]
    have whole : b ∈ (p.insert name value).entries ↔ b = (name, value) ∨ b ∈ p.entries :=
      mem_insertBinding (find?_eq_none_iff.mp found)
    rw [whole, or_and_right]
    refine or_iff_right ?_
    rintro ⟨rfl, own⟩
    rw [h] at own
    cases own
  · split at bound
    · rw [Except.ok.inj bound]
    · cases bound

/-- The bindings of the part are made as if there were no others. -/
theorem bindAll_only {bindings : List Binding} (h : p.bindAll bindings = .ok q) :
    (p.only P).bindAll (bindings.filter fun b => P b.1) = .ok (q.only P) := by
  induction bindings generalizing p with
  | nil => exact congrArg (Except.ok ∘ only P) (Except.ok.inj h)
  | cons b rest ih =>
    obtain ⟨name, value⟩ := b
    rw [bindAll_cons] at h
    obtain ⟨p', bound, h⟩ := bind_eq_ok (show p.bind name value >>= _ = _ from h)
    rw [List.filter_cons]
    -- a binding of the part goes on in the part, and one of the other leaves it alone
    cases own : P name with
    | true =>
      show (p.only P).bindAll ((name, value) :: _) = _
      rw [bindAll_cons, bind_only own, bound]
      exact ih h
    | false =>
      show (p.only P).bindAll (rest.filter _) = _
      rw [← only_of_bind own bound]
      exact ih h

/-- Where the bindings of both parts can be made, all can. -/
theorem exists_bindAll {bindings : List Binding} {x y : Parameters}
    (first : (p.only P).bindAll (bindings.filter fun b => P b.1) = .ok x)
    (second : (p.only fun n => !P n).bindAll (bindings.filter fun b => !P b.1) = .ok y) :
    ∃ q, p.bindAll bindings = .ok q := by
  -- the next binding is one of a part, and is made there and in the whole alike
  have step {Q : String → Bool} {p x : Parameters} {name : String} {value : ParamValue}
      {rest : List Binding} (own : Q name = true)
      (h : (p.only Q).bindAll ((name, value) :: rest) = .ok x) :
      ∃ p', p.bind name value = .ok p' ∧ (p'.only Q).bindAll rest = .ok x := by
    rw [bindAll_cons, bind_only own] at h
    obtain ⟨part, bound, h⟩ := bind_eq_ok (show (p.bind name value).map _ >>= _ = _ from h)
    cases whole : p.bind name value with
    | error e =>
      rw [whole] at bound
      cases bound
    | ok p' =>
      rw [whole] at bound
      exact ⟨p', rfl, Except.ok.inj bound ▸ h⟩
  induction bindings generalizing p with
  | nil => exact ⟨p, rfl⟩
  | cons b rest ih =>
    obtain ⟨name, value⟩ := b
    rw [List.filter_cons] at first second
    cases own : P name with
    | true =>
      -- the parts share no name, so the step of one does not touch the other
      have other : (!P name) = false := by rw [own]; rfl
      rw [if_pos own] at first
      rw [if_neg (by rw [other]; exact Bool.false_ne_true)] at second
      obtain ⟨p', bound, first⟩ := step own first
      rw [← only_of_bind (P := fun n => !P n) other bound] at second
      obtain ⟨q, h⟩ := ih first second
      exact ⟨q, by rw [bindAll_cons, bound]; exact h⟩
    | false =>
      have other : (!P name) = true := by rw [own]; rfl
      rw [if_neg (by rw [own]; exact Bool.false_ne_true)] at first
      rw [if_pos other] at second
      obtain ⟨p', bound, second⟩ := step (Q := fun n => !P n) other second
      rw [← only_of_bind own bound] at first
      obtain ⟨q, h⟩ := ih first second
      exact ⟨q, by rw [bindAll_cons, bound]; exact h⟩

/-! ## Other names -/

/-- The map with its names changed. -/
def rename (f : String → String) (p : Parameters) : Parameters :=
  (empty.extend (p.entries.map fun b => (f b.1, b.2))).1

/-- Renaming gives a map of which the renamed entries are the entries, in whatever order they come. -/
theorem rename_eq_of_perm {f : String → String}
    (h : (p.entries.map fun b => (f b.1, b.2)).Perm q.entries) : p.rename f = q := by
  have nodup : ((p.entries.map fun b => (f b.1, b.2)).map Prod.fst).Nodup :=
    (h.map Prod.fst).nodup_iff.mpr q.names_nodup
  obtain ⟨r, bound⟩ := bindAll_of_fresh (p := empty) (by simp) nodup
  -- the renamed entries are new to the empty map, so none of them collides
  have reached : p.rename f = r := by
    rw [bindAll] at bound
    rw [rename]
    split at bound
    · rename_i all
      rw [all, Except.ok.inj bound]
    · cases bound
  rw [reached]
  refine eq_of_mem fun b => ?_
  rw [mem_entries_of_bindAll (by simp) nodup bound, h.mem_iff]
  simp [empty]

end Parameters

end TraceQuery
