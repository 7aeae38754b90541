/-
  Binding many values, and the check of a finished query.

  1. **Sets as lists**: names are kept in ascending order, and entries in that of their names, so two
     sets with the same members are the same list (`eq_of_ascending`), and the first name found is the
     least (`find?_ascending`).
  2. **Names** (`Parameters.mem_names_of_bindAll`): bindings that can be made leave bound what was
     bound before and their own names; bindings of new names, each once, can be made
     (`Parameters.bindAll_of_fresh`).
  3. **The check** (`Query.check_eq_ok_iff`, `Query.check_unbound`, `Query.check_unused`): what it
     answers, in terms of the two sets of names alone.

  Mathlib-free.
-/
import TraceQuery.Query.Basic
import TraceQuery.Proofs.Sql.Reading

namespace TraceQuery

/-! ## Outcomes -/

section

variable {ε α β γ : Type} {x : Except ε α} {f : α → Except ε β}

/-- A chain of two steps succeeds if the first does, and the second from there. -/
theorem bind_eq_ok {b : β} (h : x >>= f = .ok b) : ∃ a, x = .ok a ∧ f a = .ok b := by
  cases x with
  | error e => cases h
  | ok a => exact ⟨a, rfl, h⟩

/-- A step that cannot fail is taken together with the one behind it. -/
theorem bind_ok_bind (x : Except ε α) (step : α → β) (next : β → Except ε γ) :
    (x.bind fun a => .ok (step a)).bind next = x.bind fun a => next (step a) := by
  cases x with
  | error e => rfl
  | ok a => rfl

end

/-! ## Ascending lists -/

/-- `n` is the least name with a property. -/
def IsLeastName (P : String → Prop) (n : String) : Prop := P n ∧ ∀ m, P m → n ≤ m

section

variable {α : Type} {key : α → String} {xs ys : List α}

theorem nodup_of_ascending (h : xs.Pairwise fun a b => key a < key b) : xs.Nodup := by
  refine h.imp ?_
  rintro a _ lt rfl
  exact String.lt_irrefl (key a) lt

/-- Ascending lists with the same members are one list: there is only one way to order them. -/
theorem eq_of_ascending (hx : xs.Pairwise fun a b => key a < key b)
    (hy : ys.Pairwise fun a b => key a < key b) (same : ∀ n, n ∈ xs ↔ n ∈ ys) : xs = ys := by
  have perm := (List.perm_ext_iff_of_nodup (nodup_of_ascending hx) (nodup_of_ascending hy)).mpr same
  refine List.Perm.eq_of_pairwise ?_ hx hy perm
  intro a b _ _ hab hba
  exact absurd hba (String.lt_asymm hab)

end

/-- In an ascending list the first name found is the least. -/
theorem find?_ascending {names : List String} (h : names.Pairwise (· < ·)) {p : String → Bool}
    {n : String} :
    names.find? p = some n ↔ IsLeastName (fun m => m ∈ names ∧ p m = true) n := by
  constructor
  · intro found
    obtain ⟨hp, before, after, rfl, skipped⟩ := List.find?_eq_some_iff_append.mp found
    refine ⟨⟨by simp, hp⟩, ?_⟩
    rintro m ⟨hm, hpm⟩
    have ahead := (List.pairwise_append.mp h).2.1
    -- what stands in front was skipped, and what stands behind is greater
    rcases List.mem_append.mp hm with hm | hm
    · have := skipped m hm
      simp [hpm] at this
    · rcases List.mem_cons.mp hm with rfl | hm
      · exact String.lt_irrefl m
      · exact String.lt_asymm (List.rel_of_pairwise_cons ahead hm)
  · rintro ⟨⟨hn, hp⟩, least⟩
    cases found : names.find? p with
    | none =>
      have := List.find?_eq_none.mp found n hn
      exact absurd hp this
    | some m =>
      -- what is found is least as well, and two least names are one
      obtain ⟨hpm, before, after, rfl, skipped⟩ := List.find?_eq_some_iff_append.mp found
      have ahead := (List.pairwise_append.mp h).2.1
      rcases List.mem_append.mp hn with hn | hn
      · have := skipped n hn
        simp [hp] at this
      · rcases List.mem_cons.mp hn with rfl | hn
        · rfl
        · exact absurd (List.rel_of_pairwise_cons ahead hn) (least m ⟨by simp, hpm⟩)

/-! ## Entries -/

/-- After an insertion the names are those before and the new one. -/
theorem mem_names_insertBinding {name : String} {value : ParamValue} {entries : List Binding}
    {n : String} :
    n ∈ (insertBinding name value entries).map Prod.fst ↔ n = name ∨ n ∈ entries.map Prod.fst := by
  induction entries with
  | nil => simp [insertBinding]
  | cons e rest ih =>
    obtain ⟨m, v⟩ := e
    simp only [insertBinding]
    split
    · simp
    · split
      · rw [List.map_cons, List.mem_cons, ih, List.map_cons, List.mem_cons]
        exact or_left_comm
      · -- neither before nor after: the entry has the name itself
        rename_i h₁ h₂
        have : m = name := String.le_antisymm (String.not_lt.mp h₁) (String.not_lt.mp h₂)
        subst this
        simp

namespace Parameters

variable {p q : Parameters} {name n : String}

/-- The names of a map ascend. -/
theorem names_ascending (p : Parameters) : p.names.Pairwise (· < ·) :=
  List.pairwise_map.mpr p.ordered

theorem names_nodup (p : Parameters) : p.names.Nodup := nodup_of_ascending p.names_ascending

theorem contains_iff : p.contains n = true ↔ n ∈ p.names := by
  simp [contains]

@[simp] theorem names_empty : empty.names = [] := rfl

theorem mem_names_insert {value : ParamValue} :
    n ∈ (p.insert name value).names ↔ n = name ∨ n ∈ p.names := mem_names_insertBinding

/-- A name without a value is not among the names. -/
theorem find?_eq_none_iff : p.find? n = none ↔ n ∉ p.names := by
  simp only [find?, Option.map_eq_none_iff, List.find?_eq_none, names, List.mem_map]
  constructor
  · rintro h ⟨b, hb, rfl⟩
    exact h b hb (by simp)
  · intro h b hb heq
    exact h ⟨b, hb, by simpa using heq⟩

theorem mem_names_of_find? {v : ParamValue} (h : p.find? n = some v) : n ∈ p.names := by
  by_cases hn : n ∈ p.names
  · exact hn
  · rw [find?_eq_none_iff.mpr hn] at h
    cases h

/-! ## Many bindings -/

/-- A binding that can be made leaves its name bound, whether it was new or had an equal value. -/
theorem mem_names_of_bind {value : ParamValue} (h : p.bind name value = .ok q) :
    n ∈ q.names ↔ n = name ∨ n ∈ p.names := by
  simp only [bind] at h
  split at h
  · rw [← Except.ok.inj h]
    exact mem_names_insert
  · rename_i found
    split at h
    · -- the name is bound already, and nothing changes
      rw [← Except.ok.inj h]
      constructor
      · exact .inr
      · rintro (rfl | hn)
        · exact mem_names_of_find? found
        · exact hn
    · cases h

/-- What is bound in the end: what was bound before, and every name of the bindings. -/
theorem mem_names_of_bindAll {bindings : List Binding} (h : p.bindAll bindings = .ok q) :
    n ∈ q.names ↔ n ∈ p.names ∨ n ∈ bindings.map Prod.fst := by
  -- on the bindings, from any map: each adds its own name to what the rest starts from
  induction bindings generalizing p with
  | nil =>
    rw [← Except.ok.inj h]
    simp
  | cons b rest ih =>
    obtain ⟨name, value⟩ := b
    rw [bindAll_cons] at h
    cases step : p.bind name value with
    | error e =>
      rw [step] at h
      cases h
    | ok p' =>
      rw [step] at h
      rw [ih h, mem_names_of_bind step, List.map_cons, List.mem_cons, or_assoc]
      exact or_left_comm

/-- Two runs of bindings are one run. -/
theorem bindAll_append (p : Parameters) (xs ys : List Binding) :
    p.bindAll (xs ++ ys) = (p.bindAll xs).bind fun q => q.bindAll ys := by
  induction xs generalizing p with
  | nil => rfl
  | cons b rest ih =>
    obtain ⟨name, value⟩ := b
    rw [List.cons_append, bindAll_cons, bindAll_cons]
    cases p.bind name value with
    | error e => rfl
    | ok q => exact ih q

/-- Bindings of new names, each once, can all be made. -/
theorem bindAll_of_fresh {bindings : List Binding}
    (fresh : ∀ n ∈ bindings.map Prod.fst, n ∉ p.names) (nodup : (bindings.map Prod.fst).Nodup) :
    ∃ q, p.bindAll bindings = .ok q := by
  induction bindings generalizing p with
  | nil => exact ⟨p, rfl⟩
  | cons b rest ih =>
    obtain ⟨name, value⟩ := b
    obtain ⟨once, nodup⟩ := List.nodup_cons.mp nodup
    have new : p.find? name = none := find?_eq_none_iff.mpr (fresh name List.mem_cons_self)
    -- the name just bound is none of those to come
    have fresh' : ∀ n ∈ rest.map Prod.fst, n ∉ (p.insert name value).names := by
      intro n hn
      rw [mem_names_insert, not_or]
      exact ⟨fun e => once (e ▸ hn), fresh n (List.mem_cons_of_mem _ hn)⟩
    obtain ⟨q, hq⟩ := ih fresh' nodup
    refine ⟨q, ?_⟩
    rw [bindAll_cons, bind, new]
    exact hq

end Parameters

/-! ## The check -/

namespace Query

variable {text : String} {params : Parameters} {n : String}

/-- The first name without a value in the order of the check is the least. -/
theorem find?_unbound :
    ((Sql.placeholderNames text).find? fun n => !params.contains n) = some n
      ↔ IsLeastName (fun m => m ∈ Sql.placeholderNames text ∧ m ∉ params.names) n := by
  rw [Sql.placeholderNames, find?_ascending (Sql.pairwise_nameSet _)]
  simp [← Parameters.contains_iff]

theorem find?_unused :
    (params.names.find? fun n => !(Sql.placeholderNames text).contains n) = some n
      ↔ IsLeastName (fun m => m ∈ params.names ∧ m ∉ Sql.placeholderNames text) n := by
  rw [find?_ascending params.names_ascending]
  simp

/-- None is found if every name of the text has a value. -/
theorem find?_unbound_eq_none :
    ((Sql.placeholderNames text).find? fun n => !params.contains n) = none
      ↔ ∀ m ∈ Sql.placeholderNames text, m ∈ params.names := by
  simp [List.find?_eq_none, Parameters.contains_iff]

theorem find?_unused_eq_none :
    (params.names.find? fun n => !(Sql.placeholderNames text).contains n) = none
      ↔ ∀ m ∈ params.names, m ∈ Sql.placeholderNames text := by
  simp [List.find?_eq_none]

/-- A query passes if it refers to the names that are bound, and to no other. -/
theorem check_eq_ok_iff {q : Query} :
    check text params = .ok q
      ↔ q = ⟨text, params⟩ ∧ ∀ m, m ∈ Sql.placeholderNames text ↔ m ∈ params.names := by
  simp only [check]
  -- the two faults are looked for one after the other, and either contradicts that the names agree
  cases unbound : (Sql.placeholderNames text).find? fun n => !params.contains n with
  | some m =>
    obtain ⟨⟨inText, notBound⟩, _⟩ := find?_unbound.mp unbound
    constructor
    · intro h
      cases h
    · rintro ⟨_, same⟩
      exact absurd ((same m).mp inText) notBound
  | none =>
    cases unused : params.names.find? fun n => !(Sql.placeholderNames text).contains n with
    | some m =>
      obtain ⟨⟨bound, notInText⟩, _⟩ := find?_unused.mp unused
      constructor
      · intro h
        cases h
      · rintro ⟨_, same⟩
        exact absurd ((same m).mpr bound) notInText
    | none =>
      constructor
      · intro h
        exact ⟨(Except.ok.inj h).symm, fun m =>
          ⟨find?_unbound_eq_none.mp unbound m, find?_unused_eq_none.mp unused m⟩⟩
      · rintro ⟨rfl, _⟩
        rfl

/-- The first fault that is reported: the least name without a value. -/
theorem check_unbound (h : ∃ m, m ∈ Sql.placeholderNames text ∧ m ∉ params.names) :
    ∃ n, IsLeastName (fun m => m ∈ Sql.placeholderNames text ∧ m ∉ params.names) n ∧
      check text params = .error (.unboundPlaceholder n) := by
  simp only [check]
  cases unbound : (Sql.placeholderNames text).find? fun n => !params.contains n with
  | some n => exact ⟨n, find?_unbound.mp unbound, rfl⟩
  | none =>
    obtain ⟨m, inText, notBound⟩ := h
    exact absurd (find?_unbound_eq_none.mp unbound m inText) notBound

/-- The fault that is reported if every placeholder has a value: the least name not referred to. -/
theorem check_unused (bound : ∀ m, m ∈ Sql.placeholderNames text → m ∈ params.names)
    (h : ∃ m, m ∈ params.names ∧ m ∉ Sql.placeholderNames text) :
    ∃ n, IsLeastName (fun m => m ∈ params.names ∧ m ∉ Sql.placeholderNames text) n ∧
      check text params = .error (.unusedParameter n) := by
  simp only [check]
  rw [find?_unbound_eq_none.mpr bound]
  cases unused : params.names.find? fun n => !(Sql.placeholderNames text).contains n with
  | some n => exact ⟨n, find?_unused.mp unused, rfl⟩
  | none =>
    obtain ⟨m, isBound, notInText⟩ := h
    exact absurd (find?_unused_eq_none.mp unused m isBound) notInText

end Query

end TraceQuery
