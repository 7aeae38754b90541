/-
  The names that a select of the library binds, each once.

  1. **Outcomes** (`ColumnFilters.build_names`): where no filter of a column is given from outside, what
     a filter binds has names under its key.
  2. **Lists of filters** (`names_filterOutcomes`): keys tell positions apart, so no two filters of a
     list share a name; and all names of a list begin as its group does.
  3. **Selects** (`Select.Named.nodup`): window, fixed conditions and page have reserved names, which
     begin neither as the names of row filters do nor as those of group filters.  So the parameters of
     the finished query are the bindings as they were made (`Select.Named.mem_entries`).

  Mathlib-free.
-/
import TraceQuery.Proofs.Query.Values
import TraceQuery.Proofs.Select.Assembly

namespace TraceQuery

open TraceQuery.Sql

/-! ## Columns -/

namespace ColumnFilters

variable {P : ColumnFilter → Prop} {cs : ColumnFilters} {c : ColumnFilter}

/-- Every column has a filter with a property. -/
def All (P : ColumnFilter → Prop) (cs : ColumnFilters) : Prop := ∀ e ∈ cs.entries, P e.2

/-- What is in the entries after an insertion is the new entry or was there before. -/
theorem mem_insertEntry {column : String} {entries : List (String × ColumnFilter)}
    {e : String × ColumnFilter} (h : e ∈ insertEntry column c entries) :
    e = (column, c) ∨ e ∈ entries := by
  induction entries with
  | nil => exact .inl (List.mem_singleton.mp h)
  | cons d rest ih =>
    obtain ⟨name, filter⟩ := d
    simp only [insertEntry] at h
    split at h
    · rcases List.mem_cons.mp h with h | h
      · exact .inl h
      · exact .inr (List.mem_cons_of_mem _ h)
    · rcases List.mem_cons.mp h with h | h
      · exact .inr (h ▸ List.mem_cons_self)
      · exact (ih h).imp_right (List.mem_cons_of_mem _)

/-- A column's filter with the property can be added to those with it. -/
theorem All.insert (h : cs.All P) (column : String) (hc : P c) : (cs.insert column c).All P := by
  intro e he
  rcases mem_insertEntry he with rfl | he
  · exact hc
  · exact h e he

/-- Columns have the property if each of those listed has it. -/
theorem all_ofList {entries : List (String × ColumnFilter)} (h : ∀ e ∈ entries, P e.2) :
    (ofList entries).All P := by
  have fold (cs : ColumnFilters) (hcs : cs.All P) :
      (entries.foldl (fun cs e => cs.insert e.1 e.2) cs).All P := by
    induction entries generalizing cs with
    | nil => exact hcs
    | cons e rest ih =>
      exact ih (fun d hd => h d (List.mem_cons_of_mem e hd)) _
        (hcs.insert e.1 (h e List.mem_cons_self))
  exact fold empty fun _ he => absurd he List.not_mem_nil

theorem All.find? (h : cs.All P) {column : String} (found : cs.find? column = some c) : P c := by
  rw [ColumnFilters.find?, Option.map_eq_some_iff] at found
  obtain ⟨e, he, rfl⟩ := found
  exact h e (List.mem_of_find?_eq_some he)

/-- A filter on a column that is not known is dropped; on any other the column's filter is applied. -/
theorem All.build_cases (h : cs.All P) (f : Filter) (key : String) :
    cs.build f key = .ok none ∨ ∃ c, P c ∧ cs.build f key = c.apply f key := by
  rw [build]
  cases found : cs.find? f.column with
  | none => exact .inl rfl
  | some c => exact .inr ⟨c, h.find? found, rfl⟩

/-- No filter is given from outside. -/
def Own (cs : ColumnFilters) : Prop := cs.All fun c => c.isCustom = false

end ColumnFilters

/-! ## Outcomes -/

/-- The names that an outcome binds. -/
def FilterOutcome.names (o : FilterOutcome) : List String := namesOf o.condition?.toList

/-- The names that are bound are those of the outcomes, one after the other. -/
theorem namesOf_kept (outcomes : List FilterOutcome) :
    namesOf (kept outcomes) = outcomes.flatMap FilterOutcome.names := by
  induction outcomes with
  | nil => rfl
  | cons o rest ih =>
    rw [List.flatMap_cons, ← ih, FilterOutcome.names, ← namesOf_append]
    cases ho : o.condition? with
    | none =>
      rw [kept, List.filterMap_cons_none ho]
      rfl
    | some c =>
      rw [kept, List.filterMap_cons_some ho]
      rfl

/-- A filter binds names under its key, each once. -/
theorem ColumnFilters.build_names {cs : ColumnFilters} (own : cs.Own) (f : Filter) (key : String) :
    (∀ n ∈ FilterOutcome.names (cs.build f key), NamedUnder key n) ∧
      (FilterOutcome.names (cs.build f key)).Nodup := by
  -- an outcome without a condition binds nothing
  have silent {o : FilterOutcome} (h : o.condition? = none) :
      (∀ n ∈ o.names, NamedUnder key n) ∧ o.names.Nodup := by
    rw [FilterOutcome.names, h]
    exact ⟨fun _ hn => absurd hn List.not_mem_nil, List.nodup_nil⟩
  rcases ColumnFilters.All.build_cases own f key with dropped | ⟨c, own, applied⟩
  · rw [dropped]
    exact silent rfl
  · rw [applied]
    cases h : c.apply f key with
    | error e => exact silent rfl
    | ok c? =>
      cases c? with
      | none => exact silent rfl
      | some cond =>
        obtain ⟨symbol, _, kept, rfl⟩ := (ColumnFilter.apply_eq_some own).mp h
        have names : namesOf [⟨c.written f key symbol, c.boundValues f key⟩] = c.boundNames f key := by
          rw [namesOf_cons, namesOf_nil, List.append_nil]
          exact ColumnFilter.boundValues_names kept key
        show (∀ n ∈ namesOf [_], NamedUnder key n) ∧ (namesOf [_]).Nodup
        rw [names]
        exact ColumnFilter.boundNames_under own f key

/-! ## Lists of filters -/

/-- The names that a list of filters binds: each once, and each begins as the group does. -/
theorem names_filterOutcomes {group : String} {c : Char} {rest : List Char}
    (hg : group.toList = c :: rest) {columns : Option ColumnFilters}
    (own : ∀ cs ∈ columns, cs.Own) (filters : List Filter) :
    (namesOf (kept (filterOutcomes group columns filters))).Nodup ∧
      ∀ n ∈ namesOf (kept (filterOutcomes group columns filters)), n.toList.head? = some c := by
  cases columns with
  | none => exact ⟨List.nodup_nil, fun _ hn => absurd hn List.not_mem_nil⟩
  | some cs =>
    have own := own cs rfl
    have names (i : Nat) (f : Filter) := cs.build_names own f (parameterKey group f.column i)
    rw [namesOf_kept]
    show ((filters.mapIdx fun i f => cs.build f (parameterKey group f.column i)).flatMap _).Nodup ∧
      ∀ n ∈ (filters.mapIdx fun i f => cs.build f (parameterKey group f.column i)).flatMap _, _
    -- each name once: within a filter, and across two of them
    refine ⟨?_, ?_⟩
    · rw [List.Nodup, List.pairwise_flatMap]
      refine ⟨?_, ?_⟩
      · intro o ho
        obtain ⟨i, hi, rfl⟩ := List.mem_mapIdx.mp ho
        exact (names i _).2
      · rw [List.pairwise_iff_getElem]
        intro i j hi hj lt x hx y hy same
        rw [List.getElem_mapIdx] at hx hy
        -- one name under the keys of two positions would make the positions one
        have := ((names i _).1 x hx).position ((names j _).1 x (same ▸ hy))
        omega
    · intro n hn
      obtain ⟨o, ho, hn⟩ := List.mem_flatMap.mp hn
      obtain ⟨i, hi, rfl⟩ := List.mem_mapIdx.mp ho
      exact ((names i _).1 n hn).head? hg

/-! ## Selects -/

/-- The names that the fixed conditions of the library bind. -/
def fixedNames : List String := ["evaluationId", "targetId", "spanIds", "traceIds"]

/-- All names but those of filters. -/
def reservedNames : List String := ["startTime", "endTime", "pastHours"] ++ fixedNames ++ Page.names

/-- Reserved names begin neither as those of row filters do nor as those of group filters. -/
theorem head?_of_reserved : ∀ n ∈ reservedNames,
    n.toList.head? ≠ some 'f' ∧ n.toList.head? ≠ some 'h' := by decide

/-- A select as the library makes them: no filters from outside, and conditions with reserved
    names. -/
structure Select.Named (s : Select) : Prop where
  /-- The filters on rows are the library's own, -/
  rows : ∀ cs ∈ s.columnFilters, cs.Own
  /-- and so are those on groups. -/
  groups : ∀ cs ∈ s.groupColumnFilters, cs.Own
  /-- The fixed conditions bind their names in a fixed order, each at most once. -/
  fixed : (namesOf s.conditions).Sublist fixedNames

namespace Select

variable {s : Select}

/-- The names bound, without those of filters. -/
def ownBindings (s : Select) : List String :=
  namesOf (s.timeRange.toList.map TimeRange.condition) ++ namesOf s.conditions ++
    namesOf (s.page.map Page.clause).toList

/-- The condition of a window binds the names of the window. -/
theorem names_window (range : TimeRange) :
    range.condition.bindings.map Prod.fst = range.window.names := by
  obtain ⟨column, window⟩ := range
  cases window with
  | between start stop => rfl
  | pastHours hours => rfl

/-- The names of a window, of fixed conditions, and of the page if there is one. -/
theorem Named.sublist_own (h : s.Named) : s.ownBindings.Sublist
    (["startTime", "endTime", "pastHours"] ++ fixedNames ++ s.page.toList.flatMap fun _ => Page.names) := by
  have window : (namesOf (s.timeRange.toList.map TimeRange.condition)).Sublist
      ["startTime", "endTime", "pastHours"] := by
    cases s.timeRange with
    | none => exact List.nil_sublist _
    | some range =>
      show (namesOf [range.condition]).Sublist _
      rw [namesOf_cons, namesOf_nil, List.append_nil, names_window]
      cases range.window with
      | between start stop => exact List.sublist_append_left ["startTime", "endTime"] ["pastHours"]
      | pastHours hours => exact List.sublist_append_right ["startTime", "endTime"] ["pastHours"]
  have page : (namesOf (s.page.map Page.clause).toList).Sublist
      (s.page.toList.flatMap fun _ => Page.names) := by
    cases s.page with
    | none => exact List.Sublist.refl _
    | some page => exact List.Sublist.refl _
  exact (window.append h.fixed).append page

/-- The names of a select's own bindings are all reserved. -/
theorem Named.sublist (h : s.Named) : s.ownBindings.Sublist reservedNames := by
  refine h.sublist_own.trans ((List.Sublist.refl _).append ?_)
  cases s.page with
  | none => exact List.nil_sublist _
  | some page => exact List.Sublist.refl _

/-- The names bound, sorted by where they come from. -/
theorem perm_bindings (s : Select) : (s.bindings.map Prod.fst).Perm (s.ownBindings ++
    (namesOf (kept (filterOutcomes "filter" s.columnFilters s.filters)) ++
      namesOf (kept s.groupOutcomes))) := by
  have whole : s.bindings.map Prod.fst
      = namesOf (kept s.outcomes ++ (s.page.map Page.clause).toList) := rfl
  rw [whole, outcomes, kept_append, kept_rowOutcomes]
  simp only [namesOf_append, ownBindings]
  -- the same lists on both sides, in another order: each name is counted as often
  refine List.perm_iff_count.mpr ?_
  intro n
  simp only [List.count_append]
  omega

namespace Named

/-- The filters on rows bind names that begin with an f, each once. -/
theorem rowNames (h : s.Named) :
    (namesOf (kept (filterOutcomes "filter" s.columnFilters s.filters))).Nodup ∧
      ∀ n ∈ namesOf (kept (filterOutcomes "filter" s.columnFilters s.filters)),
        n.toList.head? = some 'f' := names_filterOutcomes rfl h.rows s.filters

/-- The filters on groups bind names that begin with an h, each once. -/
theorem groupNames (h : s.Named) : (namesOf (kept s.groupOutcomes)).Nodup ∧
    ∀ n ∈ namesOf (kept s.groupOutcomes), n.toList.head? = some 'h' :=
  names_filterOutcomes rfl h.groups s.groupFilters

/-- A reserved name is bound by the window, a fixed condition or the page, or not at all. -/
theorem mem_ownBindings (h : s.Named) {n : String} (reserved : n ∈ reservedNames)
    (hn : s.Binds n) : n ∈ s.ownBindings := by
  have heads := head?_of_reserved n reserved
  rcases List.mem_append.mp ((perm_bindings s).mem_iff.mp hn) with hn | hn
  · exact hn
  · rcases List.mem_append.mp hn with hn | hn
    · exact absurd (h.rowNames.2 n hn) heads.1
    · exact absurd (h.groupNames.2 n hn) heads.2

/-- A select of the library binds no name twice. -/
theorem nodup (h : s.Named) : (s.bindings.map Prod.fst).Nodup := by
  have reserved : s.ownBindings.Nodup := h.sublist.nodup (by decide)
  rw [(perm_bindings s).nodup_iff, List.nodup_append, List.nodup_append]
  -- three kinds of names, told apart by their first letters
  refine ⟨reserved, ⟨h.rowNames.1, h.groupNames.1, ?_⟩, ?_⟩
  · intro a ha b hb same
    have first := h.rowNames.2 a ha
    rw [same, h.groupNames.2 b hb] at first
    exact absurd first (by decide)
  · intro a ha b hb same
    have heads := head?_of_reserved a (h.sublist.subset ha)
    rcases List.mem_append.mp hb with hb | hb
    · exact heads.1 (same ▸ h.rowNames.2 b hb)
    · exact heads.2 (same ▸ h.groupNames.2 b hb)

/-- The parameters of a query that is built are what its select binds. -/
theorem mem_entries (h : s.Named) {q : Query} (built : s.build = .ok q) {b : Binding} :
    b ∈ q.parameters.entries ↔ b ∈ s.bindings := by
  rw [Parameters.mem_entries_of_bindAll (by simp) h.nodup (of_build_eq_ok built).2.1]
  simp [Parameters.empty]

end Named

end Select

end TraceQuery
