/-
  Selects whose filters can be taken apart from everything else.

  The keys of filters begin with `filter_` or `having_`.  Where nothing else of a select refers to such a
  name or binds one (`Select.Apart`), the select is two selects in one: itself without filters
  (`Select.bare`), and its filters.

  1. **Names** (`isFilterName_of_mem`): what a filter binds has a name of this kind, and the two lists of
     filters share none.
  2. **Bindings** (`Select.Apart.filter_bindings`): those of the select, parted by their names.  Other
     names may be bound twice, so they are not told apart one by one but bound as in the bare select.
  3. **Building** (`Select.Apart.exists_build_iff`, `Select.Apart.perm_entries`): the select is built if
     the bare one is and no filter fails, and its parameters are those of the bare one and what the
     filters bind.

  Mathlib-free.
-/
import TraceQuery.Proofs.Query.Parts
import TraceQuery.Proofs.Select.Failing

namespace TraceQuery

open TraceQuery.Sql

/-! ## Names -/

/-- Tells whether a name begins as those of filters do. -/
def isFilterName (n : String) : Bool :=
  "filter_".toList.isPrefixOf n.toList || "having_".toList.isPrefixOf n.toList

/-- A name under a key begins with the group and an underscore. -/
theorem NamedUnder.prefix {group column name : String} {i : Nat}
    (h : NamedUnder (parameterKey group column i) name) :
    (group ++ "_").toList <+: name.toList := by
  have front (s t : String) : s.toList <+: (s ++ t).toList := by
    rw [String.toList_append]
    exact List.prefix_append _ _
  have key : (group ++ "_").toList <+: (parameterKey group column i).toList :=
    ((front _ _).trans (front _ _)).trans (front _ _)
  have behind (suffix : String) :
      (group ++ "_").toList <+: (boundName (parameterKey group column i) suffix).toList :=
    (key.trans (front _ _)).trans (front _ _)
  rcases h with rfl | rfl | rfl
  · exact key
  · exact behind "KEY"
  · exact behind "VAL"

/-- What filters bind lies under the key of one of them. -/
theorem namedUnder_of_mem {group : String} {columns : Option ColumnFilters}
    (own : ∀ cs ∈ columns, cs.Own) {filters : List Filter} {n : String}
    (hn : n ∈ namesOf (kept (filterOutcomes group columns filters))) :
    ∃ column i, NamedUnder (parameterKey group column i) n := by
  cases columns with
  | none => exact absurd hn List.not_mem_nil
  | some cs =>
    rw [namesOf_kept] at hn
    obtain ⟨o, ho, hn⟩ := List.mem_flatMap.mp hn
    obtain ⟨i, hi, rfl⟩ := List.mem_mapIdx.mp ho
    exact ⟨_, i, (cs.build_names (own cs rfl) _ _).1 n hn⟩

/-- A name under the key of a filter is the name of a filter. -/
theorem NamedUnder.isFilterName {group column name : String} {i : Nat}
    (hg : group = "filter" ∨ group = "having") (h : NamedUnder (parameterKey group column i) name) :
    isFilterName name = true := by
  rw [TraceQuery.isFilterName, Bool.or_eq_true]
  refine hg.imp ?_ ?_
  · rintro rfl
    exact List.isPrefixOf_iff_prefix.mpr h.prefix
  · rintro rfl
    exact List.isPrefixOf_iff_prefix.mpr h.prefix

/-- What filters bind are names of filters. -/
theorem isFilterName_of_mem {group : String} (hg : group = "filter" ∨ group = "having")
    {columns : Option ColumnFilters} (own : ∀ cs ∈ columns, cs.Own) {filters : List Filter} {n : String}
    (hn : n ∈ namesOf (kept (filterOutcomes group columns filters))) : isFilterName n = true := by
  obtain ⟨column, i, under⟩ := namedUnder_of_mem own hn
  exact under.isFilterName hg

/-! ## Selects -/

namespace Select

/-- The select without its filters. -/
def bare (s : Select) : Select := { s with filters := [], groupFilters := [] }

/-- The conditions of the filters that are kept, those on rows first. -/
def filterConditions (s : Select) : List Condition :=
  kept (filterOutcomes "filter" s.columnFilters s.filters) ++ kept s.groupOutcomes

/-- What the filters bind. -/
def filterBindings (s : Select) : List Binding := s.filterConditions.flatMap Condition.bindings

/-- A select of filters over silent columns, and of other texts and conditions that have nothing to do
    with names of filters. -/
structure Apart (s : Select) : Prop where
  /-- The filters on rows are over silent columns, -/
  rows : ∀ cs ∈ s.columnFilters, cs.Silent
  /-- and so are those on groups. -/
  groups : ∀ cs ∈ s.groupColumnFilters, cs.Silent
  /-- What the select is put together from beside its filters is balanced. -/
  balanced : ∀ part ∈ s.bare.parts, Balanced part
  /-- It refers to no name of a filter, -/
  refers : ∀ part ∈ s.bare.parts, ∀ n ∈ placeholderNames part, isFilterName n = false
  /-- and the fixed conditions bind none. -/
  binds : ∀ n ∈ namesOf s.conditions, isFilterName n = false

theorem kept_bare (group : String) (columns : Option ColumnFilters) :
    kept (filterOutcomes group columns []) = [] := by
  cases columns <;> rfl

/-- The window and the page bind no names of filters. -/
theorem otherNames (s : Select) : (∀ n ∈ namesOf (s.timeRange.toList.map TimeRange.condition),
      isFilterName n = false) ∧ ∀ n ∈ namesOf (s.page.map Page.clause).toList, isFilterName n = false := by
  have reserved : ∀ n ∈ ["startTime", "endTime", "pastHours"] ++ Page.names,
      isFilterName n = false := by decide
  refine ⟨fun n hn => reserved n (List.mem_append_left _ ?_),
    fun n hn => reserved n (List.mem_append_right _ ?_)⟩
  · obtain ⟨range, _, hn⟩ := List.mem_flatMap.mp (Agreeing.mem_names_window.mp hn)
    cases window : range.window with
    | between start stop =>
      rw [window] at hn
      exact List.mem_append_left ["pastHours"] hn
    | pastHours hours =>
      rw [window] at hn
      exact List.mem_append_right ["startTime", "endTime"] hn
  · obtain ⟨_, _, hn⟩ := List.mem_flatMap.mp (Agreeing.mem_names_page.mp hn)
    exact hn

/-- What is bound, in its five parts. -/
theorem bindings_eq (s : Select) :
    s.bindings = (s.timeRange.toList.map TimeRange.condition).flatMap Condition.bindings ++
      (kept (filterOutcomes "filter" s.columnFilters s.filters)).flatMap Condition.bindings ++
      s.conditions.flatMap Condition.bindings ++ (kept s.groupOutcomes).flatMap Condition.bindings ++
      (s.page.map Page.clause).toList.flatMap Condition.bindings := by
  simp only [bindings, outcomes, kept_append, kept_rowOutcomes, List.flatMap_append]

/-- Of conditions whose names are all alike, all bindings are taken or none. -/
theorem filter_of_names {cs : List Condition} {v : Bool} (h : ∀ n ∈ namesOf cs, isFilterName n = v) :
    (cs.flatMap Condition.bindings).filter (fun b => isFilterName b.1)
        = (if v then cs.flatMap Condition.bindings else []) ∧
      (cs.flatMap Condition.bindings).filter (fun b => !isFilterName b.1)
        = if v then [] else cs.flatMap Condition.bindings := by
  have alike : ∀ b ∈ cs.flatMap Condition.bindings, isFilterName b.1 = v :=
    fun b hb => h b.1 (List.mem_map_of_mem hb)
  rw [List.filter_congr alike, List.filter_congr fun b hb => congrArg (! ·) (alike b hb)]
  cases v <;> simp

namespace Apart

variable {s : Select} {n : String}

theorem bare (h : s.Apart) : s.bare.Apart := ⟨h.rows, h.groups, h.balanced, h.refers, h.binds⟩

theorem own_rows (h : s.Apart) : ∀ cs ∈ s.columnFilters, cs.Own := fun cs hcs => (h.rows cs hcs).own

theorem own_groups (h : s.Apart) : ∀ cs ∈ s.groupColumnFilters, cs.Own :=
  fun cs hcs => (h.groups cs hcs).own

/-! ### Bindings -/

/-- The names that filters bind are told by their beginning, each of them is bound once. -/
theorem filterNames (h : s.Apart) : (∀ n ∈ namesOf s.filterConditions, isFilterName n = true) ∧
    (namesOf s.filterConditions).Nodup := by
  have rows := names_filterOutcomes (show "filter".toList = 'f' :: _ from rfl) h.own_rows s.filters
  have groups :=
    names_filterOutcomes (show "having".toList = 'h' :: _ from rfl) h.own_groups s.groupFilters
  rw [filterConditions, namesOf_append]
  refine ⟨?_, List.nodup_append.mpr ⟨rows.1, groups.1, ?_⟩⟩
  · intro n hn
    rcases List.mem_append.mp hn with hn | hn
    · exact isFilterName_of_mem (.inl rfl) h.own_rows hn
    · exact isFilterName_of_mem (.inr rfl) h.own_groups hn
  · intro a ha b hb same
    have first := rows.2 a ha
    rw [same, groups.2 b hb] at first
    exact absurd first (by decide)

/-- The bindings of the select, parted by their names. -/
theorem filter_bindings (h : s.Apart) :
    s.bindings.filter (fun b => isFilterName b.1) = s.filterBindings ∧
      s.bindings.filter (fun b => !isFilterName b.1) = s.bare.bindings := by
  have filters : (∀ n ∈ namesOf (kept (filterOutcomes "filter" s.columnFilters s.filters)),
      isFilterName n = true) ∧ ∀ n ∈ namesOf (kept s.groupOutcomes), isFilterName n = true :=
    ⟨fun n hn => isFilterName_of_mem (.inl rfl) h.own_rows hn,
      fun n hn => isFilterName_of_mem (.inr rfl) h.own_groups hn⟩
  obtain ⟨window, page⟩ := s.otherNames
  -- between the bindings that are no filter's, those of the filters stand in two places
  constructor
  · simp only [bindings_eq, List.filter_append]
    rw [(filter_of_names window).1, (filter_of_names filters.1).1, (filter_of_names h.binds).1,
      (filter_of_names filters.2).1, (filter_of_names page).1, filterBindings, filterConditions,
      List.flatMap_append]
    simp
  · simp only [bindings_eq, List.filter_append]
    rw [(filter_of_names window).2, (filter_of_names filters.1).2, (filter_of_names h.binds).2,
      (filter_of_names filters.2).2, (filter_of_names page).2]
    simp [Select.bare, groupOutcomes, kept_bare]

/-! ### References -/

/-- What is bound is bound by the bare select or by a filter. -/
theorem binds_iff (h : s.Apart) : s.Binds n ↔ s.bare.Binds n ∨ n ∈ namesOf s.filterConditions := by
  have parted (b : Binding) : b ∈ s.bindings ↔ b ∈ s.bare.bindings ∨ b ∈ s.filterBindings := by
    rw [← h.filter_bindings.1, ← h.filter_bindings.2, List.mem_filter, List.mem_filter]
    cases isFilterName b.1 <;> simp
  simp only [Binds, namesOf, List.mem_map, parted, or_and_right, exists_or]
  rfl

/-- What is referred to is referred to by the bare select or bound by a filter. -/
theorem refers_iff (h : s.Apart) : s.Refers n ↔ s.bare.Refers n ∨ n ∈ namesOf s.filterConditions := by
  have agrees : ∀ c ∈ s.filterConditions, c.Agrees := by
    intro c hc
    rcases List.mem_append.mp hc with hc | hc
    · exact agrees_of_mem_kept (by decide) h.rows hc
    · exact agrees_of_mem_kept (by decide) h.groups hc
  have parts (part : String) : part ∈ s.parts ↔
      part ∈ s.bare.parts ∨ part ∈ s.filterConditions.map Condition.text := by
    simp only [Select.parts, givenParts, groupOutcomes, Select.bare, kept_bare, filterConditions,
      List.map_append, List.mem_append, List.map_nil, List.not_mem_nil, or_false]
    grind
  rw [Refers, Refers, mem_namesOf_iff agrees]
  simp only [parts, or_and_right, exists_or]
  show (_ ∨ _) ∨ n ∈ s.ownNames ↔ (_ ∨ n ∈ s.ownNames) ∨ _
  exact or_right_comm

theorem isFilterName_of_bare_binds (h : s.Apart) (hn : s.bare.Binds n) : isFilterName n = false := by
  obtain ⟨b, hb, rfl⟩ := List.mem_map.mp hn
  rw [← h.filter_bindings.2] at hb
  exact Bool.not_eq_true' _ ▸ (List.mem_filter.mp hb).2

theorem isFilterName_of_bare_refers (h : s.Apart) (hn : s.bare.Refers n) : isFilterName n = false := by
  rcases hn with ⟨part, hp, hn⟩ | hn
  · exact h.refers part hp n hn
  · rcases List.mem_append.mp hn with hn | hn
    · exact s.otherNames.1 n (Agreeing.mem_names_window.mpr hn)
    · exact s.otherNames.2 n (Agreeing.mem_names_page.mpr hn)

/-- Filters refer to what they bind, so they neither help nor harm. -/
theorem same_iff (h : s.Apart) :
    (∀ n, s.Refers n ↔ s.Binds n) ↔ ∀ n, s.bare.Refers n ↔ s.bare.Binds n := by
  simp only [h.refers_iff, h.binds_iff]
  constructor
  · intro same n
    have apart (hn : isFilterName n = false) : n ∉ namesOf s.filterConditions := fun mem =>
      Bool.false_ne_true (hn.symm.trans (h.filterNames.1 n mem))
    constructor
    · intro hn
      exact ((same n).mp (.inl hn)).resolve_right (apart (h.isFilterName_of_bare_refers hn))
    · intro hn
      exact ((same n).mpr (.inl hn)).resolve_right (apart (h.isFilterName_of_bare_binds hn))
  · intro same n
    rw [same n]

/-- All that the select is put together from is balanced. -/
theorem balanced_parts (h : s.Apart) : ∀ part ∈ s.parts, Balanced part := by
  intro part hp
  simp only [Select.parts, givenParts, List.mem_append, List.mem_singleton, or_assoc] at hp
  have others : part ∈ s.bare.parts → Balanced part := h.balanced part
  simp only [Select.parts, givenParts, groupOutcomes, Select.bare, kept_bare, List.map_nil,
    List.append_nil, List.mem_append, List.mem_singleton, or_assoc] at others
  have filters {group : String} (hg : isName group.toList = true) {columns : Option ColumnFilters}
      (silent : ∀ cs ∈ columns, cs.Silent) {fs : List Filter}
      (hp : part ∈ (kept (filterOutcomes group columns fs)).map Condition.text) : Balanced part := by
    obtain ⟨c, hc, rfl⟩ := List.mem_map.mp hp
    exact (agrees_of_mem_kept hg silent hc).balanced
  rcases hp with hp | hp | hp | hp | hp | hp | hp | hp
  · exact others (.inl hp)
  · exact others (.inr (.inl hp))
  · exact others (.inr (.inr (.inl hp)))
  · exact filters (by decide) h.rows hp
  · exact others (.inr (.inr (.inr (.inl hp))))
  · exact others (.inr (.inr (.inr (.inr (.inl hp)))))
  · exact filters (by decide) h.groups hp
  · exact others (.inr (.inr (.inr (.inr (.inr hp)))))

/-! ### Building -/

/-- The select is built exactly if the bare one is and no filter is refused. -/
theorem exists_build_iff (h : s.Apart) : (∃ q, s.build = .ok q) ↔
    s.firstRefused = none ∧ ∃ q, s.bare.build = .ok q := by
  rw [← Option.map_eq_none_iff (f := Filter.unsupported), ← firstError_outcomes h.own_rows h.own_groups,
    firstError_eq_none_iff]
  have bareExpressible : ∀ e, .error e ∉ s.bare.outcomes := by
    rw [← firstError_eq_none_iff, firstError_outcomes h.bare.own_rows h.bare.own_groups]
    cases hr : s.columnFilters <;> cases hg : s.groupColumnFilters <;>
      simp [firstRefused, Select.bare, hr, hg]
  constructor
  · -- the filters have failed nowhere, and what is left of the bindings without theirs can be bound
    rintro ⟨q, built⟩
    obtain ⟨expressible, bound, _⟩ := of_build_eq_ok built
    refine ⟨expressible, ?_⟩
    have others := Parameters.bindAll_only (P := fun n => !isFilterName n) bound
    rw [h.filter_bindings.2] at others
    have same : ∀ n, s.Refers n ↔ s.Binds n := by
      obtain ⟨_, _, _, _, answer, _⟩ := s.build_of_balanced _ h.balanced_parts expressible bound
      exact answer.mp ⟨q, built⟩
    obtain ⟨_, _, _, _, answer, _⟩ :=
      s.bare.build_of_balanced _ h.balanced bareExpressible others
    exact answer.mpr (h.same_iff.mp same)
  · -- the filters' bindings can be bound on their own, and so together with the others, of other names
    rintro ⟨expressible, q, built⟩
    obtain ⟨_, others, _⟩ := of_build_eq_ok built
    obtain ⟨own, hown⟩ : ∃ own, Parameters.empty.bindAll s.filterBindings = .ok own :=
      Parameters.bindAll_of_fresh (by simp) h.filterNames.2
    rw [← h.filter_bindings.1] at hown
    rw [← h.filter_bindings.2] at others
    obtain ⟨params, bound⟩ := Parameters.exists_bindAll (p := Parameters.empty) hown others
    have same : ∀ n, s.bare.Refers n ↔ s.bare.Binds n := by
      obtain ⟨_, _, _, _, answer, _⟩ := s.bare.build_of_balanced _ h.balanced bareExpressible
        (of_build_eq_ok built).2.1
      exact answer.mp ⟨q, built⟩
    obtain ⟨_, _, _, _, answer, _⟩ := s.build_of_balanced _ h.balanced_parts expressible bound
    exact answer.mpr (h.same_iff.mpr same)

/-- The parameters of the select are those of the bare one, and what the filters bind. -/
theorem perm_entries (h : s.Apart) {q q₀ : Query} (built : s.build = .ok q)
    (built₀ : s.bare.build = .ok q₀) :
    q.parameters.entries.Perm (q₀.parameters.entries ++ s.filterBindings) := by
  have bound := (of_build_eq_ok built).2.1
  -- what is left of the parameters without the names of filters is bound by the bare select
  have others : q.parameters.only (fun n => !isFilterName n) = q₀.parameters := by
    have part := Parameters.bindAll_only (P := fun n => !isFilterName n) bound
    rw [h.filter_bindings.2] at part
    exact Except.ok.inj (part.symm.trans (of_build_eq_ok built₀).2.1)
  have filters : (q.parameters.only isFilterName).entries.Perm s.filterBindings := by
    have part := Parameters.bindAll_only (P := isFilterName) bound
    rw [h.filter_bindings.1] at part
    have nodup : s.filterBindings.Nodup :=
      List.Pairwise.of_map Prod.fst (fun _ _ apart same => apart (congrArg _ same)) h.filterNames.2
    rw [List.perm_ext_iff_of_nodup (nodup_of_ascending (Parameters.ordered _)) nodup]
    intro b
    rw [Parameters.mem_entries_of_bindAll (by simp [Parameters.only, Parameters.empty, Parameters.names])
      h.filterNames.2 part]
    exact or_iff_right List.not_mem_nil
  rw [← others]
  have parted := List.filter_append_perm (fun b : Binding => !isFilterName b.1) q.parameters.entries
  simp only [Bool.not_not] at parted
  exact parted.symm.trans (filters.append_left _)

end Apart

end Select

end TraceQuery
