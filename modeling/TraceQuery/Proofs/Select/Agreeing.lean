/-
  Selects that refer to exactly what they bind.

  The library makes its selects of silent SQL, of fixed conditions that refer to the names they bind,
  and of filters over silent columns.  Such a select (`Select.Agreeing`) is answered in one of two ways
  (`Select.Agreeing.build`): with a query whose text is balanced and whose placeholders are its
  parameters, or with the error of a filter, which names an operator that its column cannot express.
  Whether one does is all that decides (`Select.Agreeing.build_of_expressible`).

  1. **Conditions** (`Condition.Agrees.mem_iff`): one that agrees refers to a name exactly if it binds
     the name, and so do many of them together (`mem_namesOf_iff`).
  2. **Filters** (`agrees_of_mem_kept`): what is kept of filters over silent columns agrees.  A filter
     fails for its operator only, and the error names it (`eq_unsupported_of_mem`).
  3. **Selects**: each text that a select is put together from is silent or that of a condition
     (`Select.Agreeing.silent_or_condition`).  So the names that the select refers to are those that it
     binds, one by one (`Select.Agreeing.refers_iff_binds`), and the check of the finished text has
     nothing to find.

  Mathlib-free.

-/
import TraceQuery.Proofs.Select.Names

namespace TraceQuery

open TraceQuery.Sql

/-! ## Conditions -/

theorem Condition.Agrees.balanced {c : Condition} (h : c.Agrees) : Balanced c.text := by
  obtain ⟨refs, reads, _⟩ := h
  exact reads.balanced

/-- A condition that agrees refers to a name exactly if it binds the name. -/
theorem Condition.Agrees.mem_iff {c : Condition} (h : c.Agrees) {n : String} :
    n ∈ placeholderNames c.text ↔ n ∈ c.bindings.map Prod.fst := by
  obtain ⟨refs, reads, same⟩ := h
  rw [mem_placeholderNames, reads.references, same]

/-- Conditions that agree refer to the names they bind. -/
theorem mem_namesOf_iff {cs : List Condition} (h : ∀ c ∈ cs, c.Agrees) {n : String} :
    n ∈ namesOf cs ↔ ∃ text ∈ cs.map Condition.text, n ∈ placeholderNames text := by
  rw [namesOf, List.map_flatMap, List.mem_flatMap]
  constructor
  · rintro ⟨c, hc, hn⟩
    exact ⟨c.text, List.mem_map_of_mem hc, (h c hc).mem_iff.mpr hn⟩
  · rintro ⟨text, ht, hn⟩
    obtain ⟨c, hc, rfl⟩ := List.mem_map.mp ht
    exact ⟨c, hc, (h c hc).mem_iff.mp hn⟩

/-! ## Filters -/

namespace ColumnFilters

variable {cs : ColumnFilters}

/-- Every column refers to nothing. -/
def Silent (cs : ColumnFilters) : Prop := cs.All ColumnFilter.Silent

/-- Every column is clean. -/
def Clean (cs : ColumnFilters) : Prop := cs.All ColumnFilter.Clean

theorem Silent.own (h : cs.Silent) : cs.Own := fun e he => (h e he).own

theorem Clean.silent (h : cs.Clean) : cs.Silent := fun e he => (h e he).silent

theorem Clean.own (h : cs.Clean) : cs.Own := h.silent.own

end ColumnFilters

/-- What is kept is the conditions among the outcomes. -/
theorem mem_kept {outcomes : List FilterOutcome} {c : Condition} :
    c ∈ kept outcomes ↔ .ok (some c) ∈ outcomes := by
  rw [kept, List.mem_filterMap]
  constructor
  · rintro ⟨o, ho, hc⟩
    cases o with
    | error e => cases hc
    | ok c? =>
      have : c? = some c := hc
      exact this ▸ ho
  · intro h
    exact ⟨_, h, rfl⟩

section

variable {group : String} {columns : Option ColumnFilters} {filters : List Filter}

/-- Each outcome of a list of filters is that of a filter dropped, or of the filter of a column. -/
theorem mem_filterOutcomes {P : ColumnFilter → Prop} (all : ∀ cs ∈ columns, cs.All P)
    {o : FilterOutcome} (h : o ∈ filterOutcomes group columns filters) :
    o = .ok none ∨
      ∃ c, P c ∧ ∃ f ∈ filters, ∃ i, o = c.apply f (parameterKey group f.column i) := by
  cases columns with
  | none => cases h
  | some cs =>
    obtain ⟨i, hi, rfl⟩ := List.mem_mapIdx.mp h
    rcases (all cs rfl).build_cases filters[i] (parameterKey group filters[i].column i) with
      dropped | ⟨c, hc, applied⟩
    · exact .inl dropped
    · exact .inr ⟨c, hc, filters[i], List.getElem_mem hi, i, applied⟩

/-- The filters of silent columns that are kept agree. -/
theorem agrees_of_mem_kept (hg : isName group.toList = true) (silent : ∀ cs ∈ columns, cs.Silent)
    {c : Condition} (h : c ∈ kept (filterOutcomes group columns filters)) : c.Agrees := by
  rcases mem_filterOutcomes silent (mem_kept.mp h) with dropped | ⟨filter, silent, f, _, i, applied⟩
  · cases dropped
  · exact (ColumnFilter.agrees silent (isName_parameterKey hg f.column i) applied.symm).1

/-- Where no filter is given from outside, the only error is an operator that its column cannot
    express. -/
theorem eq_unsupported_of_mem (own : ∀ cs ∈ columns, cs.Own) {e : QueryError}
    (h : .error e ∈ filterOutcomes group columns filters) : ∃ f ∈ filters, e = f.unsupported := by
  rcases mem_filterOutcomes own h with dropped | ⟨filter, own, f, hf, i, applied⟩
  · cases dropped
  · have failed := (ColumnFilter.apply_eq_error own).mp applied.symm
    exact ⟨f, hf, ColumnFilter.operatorText_eq_error failed⟩

end

/-! ## Queries -/

/-- A query that can stand inside another one and refers to exactly its parameters. -/
structure Query.Closed (q : Query) : Prop where
  /-- What is put behind the text is read as if it stood alone. -/
  balanced : Balanced q.text
  /-- The placeholders and the parameters have the same names, in the same order. -/
  names : placeholderNames q.text = q.parameters.names

/-- A balanced text that refers to the names bound makes a query. -/
theorem Query.check_closed {text : String} {params : Parameters} (h : Balanced text)
    (same : ∀ n, n ∈ placeholderNames text ↔ n ∈ params.names) :
    check text params = .ok ⟨text, params⟩ ∧ Query.Closed ⟨text, params⟩ :=
  ⟨check_eq_ok_iff.mpr ⟨rfl, same⟩, h,
    eq_of_ascending (pairwise_nameSet _) params.names_ascending same⟩

/-! ## Selects -/

namespace Select

variable {s : Select}

/-- An error among the outcomes is that of a filter, on rows or on groups. -/
theorem eq_unsupported_of_mem_outcomes (h : s.Named) {e : QueryError} (he : .error e ∈ s.outcomes) :
    ∃ f ∈ s.filters ++ s.groupFilters, e = f.unsupported := by
  rcases List.mem_append.mp he with he | he
  · rcases List.mem_append.mp he with he | he
    · rcases List.mem_append.mp he with he | he
      · obtain ⟨_, _, same⟩ := List.mem_map.mp he
        cases same
      · obtain ⟨f, hf, same⟩ := eq_unsupported_of_mem h.rows he
        exact ⟨f, List.mem_append_left _ hf, same⟩
    · obtain ⟨_, _, same⟩ := List.mem_map.mp he
      cases same
  · obtain ⟨f, hf, same⟩ := eq_unsupported_of_mem h.groups he
    exact ⟨f, List.mem_append_right _ hf, same⟩

/-- That no outcome is an error can be computed. -/
theorem expressible_of_isOk (h : (s.outcomes.all fun o => o.isOk) = true) :
    ∀ e, .error e ∉ s.outcomes :=
  fun _ he => Bool.false_ne_true (List.all_eq_true.mp h _ he)

/-- A select of silent SQL, of silent columns and of fixed conditions that agree. -/
structure Agreeing (s : Select) : Prop where
  /-- What is selected refers to nothing, -/
  columns : ∀ t ∈ s.columns, Silent t
  table : Silent s.table
  window : ∀ range ∈ s.timeRange, Silent range.column
  groupBy : ∀ t ∈ s.groupBy, Silent t
  orderBy : ∀ t ∈ s.orderBy, Silent t.expression
  /-- and neither do the columns that filters are on. -/
  rows : ∀ cs ∈ s.columnFilters, cs.Silent
  groups : ∀ cs ∈ s.groupColumnFilters, cs.Silent
  /-- The fixed conditions refer to what they bind, -/
  agrees : ∀ c ∈ s.conditions, c.Agrees
  /-- and they bind names that are reserved for them. -/
  fixed : (namesOf s.conditions).Sublist fixedNames

namespace Agreeing

theorem named (h : s.Agreeing) : s.Named :=
  ⟨fun cs hcs => (h.rows cs hcs).own, fun cs hcs => (h.groups cs hcs).own, h.fixed⟩

/-- The conditions that a select is given or gets from its filters. -/
def conditions (s : Select) : List Condition :=
  kept (filterOutcomes "filter" s.columnFilters s.filters) ++ s.conditions ++ kept s.groupOutcomes

/-- All of these conditions agree. -/
theorem agrees_of_mem (h : s.Agreeing) : ∀ c ∈ conditions s, c.Agrees := by
  intro c hc
  rcases List.mem_append.mp hc with hc | hc
  · rcases List.mem_append.mp hc with hc | hc
    · exact agrees_of_mem_kept (by decide) h.rows hc
    · exact h.agrees c hc
  · exact agrees_of_mem_kept (by decide) h.groups hc

/-- A text that a select is put together from is silent or that of a condition. -/
theorem silent_or_condition (h : s.Agreeing) {part : String} (hp : part ∈ s.parts) :
    Silent part ∨ part ∈ (conditions s).map Condition.text := by
  simp only [parts, givenParts, List.mem_append, List.mem_singleton, or_assoc] at hp
  simp only [conditions, List.map_append, List.mem_append, or_assoc]
  -- the eight places that a text may come from: the window, the clauses one by one and the order
  rcases hp with hp | hp | rfl | hp | hp | hp | hp | hp
  · obtain ⟨range, hr, rfl⟩ := List.mem_map.mp hp
    exact .inl (h.window range (by simpa using hr))
  · exact .inl (h.columns part hp)
  · exact .inl h.table
  · exact .inr (.inl hp)
  · exact .inr (.inr (.inl hp))
  · exact .inl (h.groupBy part hp)
  · exact .inr (.inr (.inr hp))
  · obtain ⟨term, ht, rfl⟩ := List.mem_map.mp hp
    exact .inl (h.orderBy term ht)

/-- What the window binds is its own names. -/
theorem mem_names_window {n : String} : n ∈ namesOf (s.timeRange.toList.map TimeRange.condition) ↔
    n ∈ s.timeRange.toList.flatMap fun range => range.window.names := by
  cases s.timeRange with
  | none => exact Iff.rfl
  | some range =>
    show n ∈ namesOf [range.condition] ↔ n ∈ [range].flatMap _
    rw [namesOf_cons, namesOf_nil, List.append_nil, names_window, List.flatMap_cons,
      List.flatMap_nil, List.append_nil]

theorem mem_names_page {n : String} :
    n ∈ namesOf (s.page.map Page.clause).toList ↔ n ∈ s.page.toList.flatMap fun _ => Page.names := by
  cases s.page with
  | none => exact Iff.rfl
  | some page => exact Iff.rfl

/-- What is bound: the names of the window, of the conditions and of the page. -/
theorem binds_iff {n : String} : s.Binds n ↔ n ∈ namesOf (conditions s) ∨ n ∈ s.ownNames := by
  have whole : s.Binds n ↔ n ∈ namesOf (kept s.outcomes ++ (s.page.map Page.clause).toList) := Iff.rfl
  rw [whole, outcomes, kept_append, kept_rowOutcomes, ownNames, conditions]
  simp only [namesOf_append, List.mem_append, mem_names_window, mem_names_page]
  grind

/-- A name is referred to exactly if it is bound. -/
theorem refers_iff_binds (h : s.Agreeing) (n : String) : s.Refers n ↔ s.Binds n := by
  rw [binds_iff, mem_namesOf_iff h.agrees_of_mem, Refers]
  constructor
  · rintro (⟨part, hp, hn⟩ | hn)
    · -- a silent text refers to nothing, so it is the text of a condition
      rcases h.silent_or_condition hp with silent | hp
      · exact absurd hn (silent.not_mem_placeholderNames n)
      · exact .inl ⟨part, hp, hn⟩
    · exact .inr hn
  · rintro (⟨part, hp, hn⟩ | hn)
    · refine .inl ⟨part, List.mem_append_right _ ?_, hn⟩
      simp only [conditions, List.map_append, List.mem_append] at hp
      simp only [givenParts, List.mem_append]
      grind
    · exact .inr hn

/-- Every text that the select is put together from is balanced. -/
theorem balanced (h : s.Agreeing) : ∀ part ∈ s.parts, Balanced part := by
  intro part hp
  rcases h.silent_or_condition hp with silent | hp
  · exact silent.balanced
  · obtain ⟨c, hc, rfl⟩ := List.mem_map.mp hp
    exact (h.agrees_of_mem c hc).balanced

/-- Where no filter fails everything is bound, and the text refers to just that. -/
theorem build_of_expressible (h : s.Agreeing) (expressible : ∀ e, .error e ∉ s.outcomes) :
    ∃ q, s.build = .ok q ∧ q.Closed ∧ ∀ n, n ∈ q.parameters.names ↔ s.Binds n := by
  obtain ⟨params, bound⟩ : ∃ params, Parameters.empty.bindAll s.bindings = .ok params :=
    Parameters.bindAll_of_fresh (by simp) h.named.nodup
  have text : Balanced s.statement.text :=
    (Statement.reads_text (balanced_statement h.balanced)).balanced
  -- referred to in the text, referred to by the select, bound by it, bound among the parameters
  have same (n : String) : n ∈ placeholderNames s.statement.text ↔ n ∈ params.names := by
    rw [mem_placeholderNames_text h.balanced, h.refers_iff_binds, mem_names_iff_binds bound]
  obtain ⟨checked, closed⟩ := Query.check_closed text same
  refine ⟨⟨s.statement.text, params⟩, ?_, closed, fun n => mem_names_iff_binds bound⟩
  rw [build_of_ok expressible bound, checked]

theorem closed (h : s.Agreeing) {q : Query} (built : s.build = .ok q) : q.Closed := by
  obtain ⟨q', built', closed, _⟩ := h.build_of_expressible (of_build_eq_ok built).1
  rw [built] at built'
  exact Except.ok.inj built' ▸ closed

/-- The two answers of such a select: a closed query, or the error of a filter. -/
theorem build (h : s.Agreeing) :
    (∃ q, s.build = .ok q ∧ q.Closed ∧ ∀ n, n ∈ q.parameters.names ↔ s.Binds n) ∨
      ∃ f ∈ s.filters ++ s.groupFilters, s.build = .error f.unsupported := by
  cases failing : firstError s.outcomes with
  | some e =>
    have built := build_of_firstError failing h.named.nodup
    obtain ⟨f, hf, rfl⟩ := eq_unsupported_of_mem_outcomes h.named (mem_of_firstError failing)
    exact .inr ⟨f, hf, built⟩
  | none => exact .inl (h.build_of_expressible (firstError_eq_none_iff.mp failing))

end Agreeing

end Select

end TraceQuery
