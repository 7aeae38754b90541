/-
  What the names of a query are bound to.

  Parameters are told by their entries: they ascend by name, so two maps with the same entries are one
  map (`Parameters.eq_of_mem`), and a name has the value that it stands beside
  (`Parameters.find?_eq_some_iff`).  Bindings of new names, each once, become entries as they are
  (`Parameters.mem_entries_of_bindAll`).

  Mathlib-free.
-/
import TraceQuery.Proofs.Query.Binding

namespace TraceQuery

/-! ## Entries -/

/-- In an ascending list the entry that is found for a name is the only one there is. -/
theorem find?_of_ascending {entries : List Binding} (h : Ascending entries) {n : String}
    {v : ParamValue} :
    (entries.find? fun b => b.1 == n).map Prod.snd = some v ↔ (n, v) ∈ entries := by
  induction entries with
  | nil => simp
  | cons e rest ih =>
    obtain ⟨m, w⟩ := e
    obtain ⟨ahead, later⟩ := List.pairwise_cons.mp h
    by_cases same : m = n
    · subst same
      -- no later entry has the name of the first
      have gone : (m, v) ∉ rest := fun hm => String.lt_irrefl m (ahead _ hm)
      simp [gone, eq_comm]
    · simp [same, Ne.symm same, ih later]

/-- Inserting a new name adds one entry and drops none. -/
theorem mem_insertBinding {name : String} {value : ParamValue} {entries : List Binding}
    (fresh : name ∉ entries.map Prod.fst) {b : Binding} :
    b ∈ insertBinding name value entries ↔ b = (name, value) ∨ b ∈ entries := by
  induction entries with
  | nil => simp [insertBinding]
  | cons e rest ih =>
    obtain ⟨m, w⟩ := e
    rw [List.map_cons, List.mem_cons, not_or] at fresh
    simp only [insertBinding]
    split
    · exact List.mem_cons
    · split
      · rw [List.mem_cons, ih fresh.2, List.mem_cons]
        exact or_left_comm
      · rename_i h₁ h₂
        exact absurd (String.le_antisymm (String.not_lt.mp h₂) (String.not_lt.mp h₁)) fresh.1

/-! ## Maps -/

namespace Parameters

variable {p q : Parameters} {n : String}

theorem find?_eq_some_iff {v : ParamValue} : p.find? n = some v ↔ (n, v) ∈ p.entries :=
  find?_of_ascending p.ordered

/-- Two maps with the same entries are one map. -/
theorem eq_of_mem (same : ∀ b, b ∈ p.entries ↔ b ∈ q.entries) : p = q :=
  Parameters.ext (eq_of_ascending p.ordered q.ordered same)

/-- After an insertion the new name has its value, and every other name the value it had. -/
theorem find?_insert {name : String} {value : ParamValue} (fresh : p.find? name = none) :
    (p.insert name value).find? n = if n = name then some value else p.find? n := by
  have new : name ∉ p.names := find?_eq_none_iff.mp fresh
  have whole (v : ParamValue) :
      (n, v) ∈ (p.insert name value).entries ↔ (n, v) = (name, value) ∨ (n, v) ∈ p.entries :=
    mem_insertBinding new
  refine Option.ext fun v => ?_
  rw [find?_eq_some_iff, whole, Prod.mk.injEq]
  -- the new name has one entry, the inserted one, and every other name keeps its own
  by_cases own : n = name
  · subst own
    have gone : (n, v) ∉ p.entries := fun h => new (List.mem_map_of_mem h)
    simp [gone, eq_comm]
  · simp [own, find?_eq_some_iff]

/-- Bindings of new names, each once, become entries. -/
theorem mem_entries_of_bindAll {bindings : List Binding}
    (fresh : ∀ n ∈ bindings.map Prod.fst, n ∉ p.names) (nodup : (bindings.map Prod.fst).Nodup)
    (h : p.bindAll bindings = .ok q) {b : Binding} : b ∈ q.entries ↔ b ∈ p.entries ∨ b ∈ bindings := by
  induction bindings generalizing p with
  | nil =>
    rw [← Except.ok.inj h]
    simp
  | cons e rest ih =>
    obtain ⟨name, value⟩ := e
    obtain ⟨once, nodup⟩ := List.nodup_cons.mp nodup
    have new : name ∉ p.names := fresh name List.mem_cons_self
    -- the names to come are new to the map with the first one, as none of them is repeated
    have fresh' : ∀ n ∈ rest.map Prod.fst, n ∉ (p.insert name value).names := by
      intro n hn
      rw [mem_names_insert, not_or]
      exact ⟨fun same => once (same ▸ hn), fresh n (List.mem_cons_of_mem _ hn)⟩
    rw [bindAll_cons, bind, find?_eq_none_iff.mpr new] at h
    have inserted : b ∈ (p.insert name value).entries ↔ b = (name, value) ∨ b ∈ p.entries :=
      mem_insertBinding new
    rw [ih fresh' nodup h, inserted, List.mem_cons, or_assoc]
    exact or_left_comm

/-- The map without the entries of some names. -/
def without (p : Parameters) (names : List String) : Parameters :=
  ⟨p.entries.filter fun b => !names.contains b.1, p.ordered.filter _⟩

end Parameters

end TraceQuery
