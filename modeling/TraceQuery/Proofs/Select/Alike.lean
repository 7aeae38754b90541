/-
  Two selects that differ in values only.

  Two runs of the same program are set side by side, on requests that agree in everything but the values
  that will be bound.

  1. **Filters** (`Filter.Alike`): the same column and operator, with values that the column takes or
     drops alike; of a status, also the same outcome asked for or none.  Then the two conditions say the
     same and bind the same names (`ColumnFilters.build_alike`), since a filter's first half looks at
     its value for these two reasons only.
  2. **Outcomes** (`FilterOutcome.Alike`) go together one by one: lists of filters keep their positions,
     so also the keys are the same.
  3. **Selects** (`Select.Alike.build`): whenever the first one is built, so is the second one, with the
     same text and the same names.  That no two names of the second one are equal has to be known; it is
     all that could stop it.
-/
import Mathlib.Data.List.Forall2
import TraceQuery.Proofs.Select.Names

namespace TraceQuery

open TraceQuery.Sql

/-! ## Filters -/

/-- Two filters that a column cannot tell apart but by the value that it binds. -/
structure Filter.Alike (columns : ColumnFilters) (f g : Filter) : Prop where
  /-- They are on the same column -/
  column : f.column = g.column
  /-- with the same operator. -/
  operator : f.operator = g.operator
  /-- A filter may be dropped for its value, so both are or neither is. -/
  dropped : ∀ key, columns.build f key = .ok none ↔ columns.build g key = .ok none
  /-- A filter on a status says which outcome is asked for, so this is in the text. -/
  outcome : ∀ sql, columns.find? f.column = some (.status sql) →
    f.value.statusAlias? = g.value.statusAlias?

/-- Two conditions that say the same and bind the same names. -/
structure Condition.Alike (c d : Condition) : Prop where
  text : c.text = d.text
  names : c.bindings.map Prod.fst = d.bindings.map Prod.fst

/-- Two outcomes of one kind. -/
inductive FilterOutcome.Alike : FilterOutcome → FilterOutcome → Prop where
  /-- The errors may differ: a filter names its operator but also its column. -/
  | failed (e e' : QueryError) : Alike (.error e) (.error e')
  /-- Nothing on both sides. -/
  | dropped : Alike (.ok none) (.ok none)
  /-- A condition on both sides. -/
  | kept {c d : Condition} (h : c.Alike d) : Alike (.ok (some c)) (.ok (some d))

/-- Where no filter is given from outside, filters that are alike have outcomes that are alike. -/
theorem ColumnFilters.build_alike {cs : ColumnFilters} (own : cs.Own) {f g : Filter}
    (h : Filter.Alike cs f g) (key : String) :
    FilterOutcome.Alike (cs.build f key) (cs.build g key) := by
  cases found : cs.find? f.column with
  | none =>
    have hf : cs.build f key = .ok none := by rw [build, found]
    have hg : cs.build g key = .ok none := by rw [build, ← h.column, found]
    rw [hf, hg]
    exact .dropped
  | some c =>
    have own := own.find? found
    have hf : cs.build f key = c.apply f key := by rw [build, found]
    have hg : cs.build g key = c.apply g key := by rw [build, ← h.column, found]
    have dropped := h.dropped key
    have outcome : ∀ sql, c = .status sql → f.value.statusAlias? = g.value.statusAlias? :=
      fun sql hc => h.outcome sql (hc ▸ found)
    rw [hf, hg, ColumnFilter.apply_eq own, ColumnFilter.apply_eq own,
      ← ColumnFilter.operatorText_congr h.column h.operator] at dropped ⊢
    cases operator : c.operatorText f with
    | error e => exact .failed e e
    | ok symbol =>
      -- the operator is expressed; that the values are both of use or neither is what is known
      rw [operator] at dropped
      cases hv : c.keeps f.value with
      | false =>
        cases hw : c.keeps g.value with
        | false => exact .dropped
        | true =>
          rw [hv, hw] at dropped
          cases dropped.mp rfl
      | true =>
        cases hw : c.keeps g.value with
        | false =>
          rw [hv, hw] at dropped
          cases dropped.mpr rfl
        | true =>
          refine .kept ⟨?_, ?_⟩
          · exact ColumnFilter.written_congr h.operator outcome key symbol
          · show (c.boundValues f key).map Prod.fst = (c.boundValues g key).map Prod.fst
            rw [ColumnFilter.boundValues_names hv, ColumnFilter.boundValues_names hw,
              ColumnFilter.boundNames_congr own outcome]

/-! ## Outcomes -/

/-- Two options of one kind. -/
theorem none_or_some {α β : Type} {x : Option α} {y : Option β} (h : x.isSome = y.isSome) :
    (x = none ∧ y = none) ∨ ∃ a b, x = some a ∧ y = some b := by
  cases x with
  | none =>
    cases y with
    | none => exact .inl ⟨rfl, rfl⟩
    | some b => cases h
  | some a =>
    cases y with
    | none => cases h
    | some b => exact .inr ⟨a, b, rfl, rfl⟩

/-- Lists of filters that are alike position by position have such outcomes: the keys are the same. -/
theorem filterOutcomes_alike {group : String} {cs : ColumnFilters} (own : cs.Own)
    {fs gs : List Filter} (h : List.Forall₂ (Filter.Alike cs) fs gs) :
    List.Forall₂ FilterOutcome.Alike (filterOutcomes group (some cs) fs)
      (filterOutcomes group (some cs) gs) := by
  obtain ⟨length, each⟩ := List.forall₂_iff_get.mp h
  -- the two lists have their filters at the same positions, and with them the keys
  refine List.forall₂_iff_get.mpr ⟨?_, ?_⟩
  · simp only [filterOutcomes, List.length_mapIdx, length]
  · intro i hi hj
    simp only [filterOutcomes, List.length_mapIdx] at hi hj
    have alike := each i hi hj
    simp only [List.get_eq_getElem] at alike
    simp only [filterOutcomes, List.get_eq_getElem, List.getElem_mapIdx]
    rw [← alike.column]
    exact cs.build_alike own alike _

section

variable {xs ys : List FilterOutcome}

/-- If one of the second outcomes is an error, so is one of the first. -/
theorem error_mem_alike (h : List.Forall₂ FilterOutcome.Alike xs ys) {e : QueryError}
    (he : .error e ∈ ys) : ∃ e, .error e ∈ xs := by
  induction h with
  | nil => cases he
  | cons head _ ih =>
    rcases List.mem_cons.mp he with rfl | he
    · cases head with
      | failed e e' => exact ⟨e, List.mem_cons_self⟩
    · obtain ⟨e', he'⟩ := ih he
      exact ⟨e', List.mem_cons_of_mem _ he'⟩

/-- What is kept of outcomes that are alike says the same and binds the same names. -/
theorem kept_alike (h : List.Forall₂ FilterOutcome.Alike xs ys) :
    (kept xs).map Condition.text = (kept ys).map Condition.text ∧
      namesOf (kept xs) = namesOf (kept ys) := by
  induction h with
  | nil => exact ⟨rfl, rfl⟩
  | @cons x y xs ys head _ ih =>
    cases head with
    | failed e e' => exact ih
    | dropped => exact ih
    | @kept c d alike =>
      show (c :: kept xs).map _ = (d :: kept ys).map _ ∧ namesOf (c :: kept xs) = namesOf (d :: kept ys)
      rw [List.map_cons, List.map_cons, namesOf_cons, namesOf_cons, alike.text, alike.names, ih.1,
        ih.2]
      exact ⟨rfl, rfl⟩

end

/-! ## Selects -/

/-- Whenever the first is a query, so is the second, with the same text and the same names. -/
def Follows (x y : Except QueryError Query) : Prop :=
  ∀ q, x = .ok q → ∃ q', y = .ok q' ∧ q'.text = q.text ∧ q'.parameters.names = q.parameters.names

/-- The check looks at the names of parameters only. -/
theorem Query.check_alike {text : String} {params params' : Parameters} {q : Query}
    (h : check text params = .ok q) (same : params'.names = params.names) :
    ∃ q', check text params' = .ok q' ∧ q'.text = q.text ∧
      q'.parameters.names = q.parameters.names := by
  obtain ⟨rfl, names⟩ := check_eq_ok_iff.mp h
  exact ⟨⟨text, params'⟩, check_eq_ok_iff.mpr ⟨rfl, fun n => by rw [names n, same]⟩, rfl, same⟩

/-- Two selects of one shape, whose outcomes are alike. -/
structure Select.Alike (s t : Select) : Prop where
  columns : s.columns = t.columns
  table : s.table = t.table
  rows : List.Forall₂ FilterOutcome.Alike s.rowOutcomes t.rowOutcomes
  groupBy : s.groupBy = t.groupBy
  groups : List.Forall₂ FilterOutcome.Alike s.groupOutcomes t.groupOutcomes
  orderBy : s.orderBy = t.orderBy
  page : s.page.isSome = t.page.isSome

namespace Select

variable {s t : Select}

theorem mem_names_of_build {q : Query} (h : s.build = .ok q) {n : String} :
    n ∈ q.parameters.names ↔ s.Binds n := mem_names_iff_binds (of_build_eq_ok h).2.1

namespace Alike

/-- The clause of a page is the same for every page. -/
theorem page_alike (h : s.Alike t) :
    (s.page.map Page.clause).map Condition.text = (t.page.map Page.clause).map Condition.text ∧
      namesOf (s.page.map Page.clause).toList = namesOf (t.page.map Page.clause).toList := by
  rcases none_or_some h.page with ⟨hs, ht⟩ | ⟨page, page', hs, ht⟩
  · rw [hs, ht]
    exact ⟨rfl, rfl⟩
  · rw [hs, ht]
    exact ⟨rfl, rfl⟩

theorem statement (h : s.Alike t) : s.statement = t.statement := by
  rw [Select.statement, Select.statement, h.columns, h.table, (kept_alike h.rows).1, h.groupBy,
    (kept_alike h.groups).1, h.orderBy, h.page_alike.1]

/-- Selects that are alike bind the same names in the same order. -/
theorem names (h : s.Alike t) : s.bindings.map Prod.fst = t.bindings.map Prod.fst := by
  have whole (u : Select) : u.bindings.map Prod.fst = namesOf (kept u.rowOutcomes) ++
      namesOf (kept u.groupOutcomes) ++ namesOf (u.page.map Page.clause).toList := by
    rw [← namesOf_append, ← namesOf_append, ← kept_append]
    rfl
  rw [whole, whole, (kept_alike h.rows).2, (kept_alike h.groups).2, h.page_alike.2]

/-- If the first select is built, so is the second, and the query differs in its values only. -/
theorem build (h : s.Alike t) (named : t.Named) : Follows s.build t.build := by
  intro q hq
  obtain ⟨expressible, bound, checked⟩ := of_build_eq_ok hq
  have expressible' : ∀ e, .error e ∉ t.outcomes := by
    intro e he
    rcases List.mem_append.mp he with he | he
    · obtain ⟨e', he'⟩ := error_mem_alike h.rows he
      exact expressible e' (List.mem_append_left _ he')
    · obtain ⟨e', he'⟩ := error_mem_alike h.groups he
      exact expressible e' (List.mem_append_right _ he')
  -- equal names alone do not keep the bindings of `t` apart: a name may be bound twice to one value
  obtain ⟨params, bound'⟩ : ∃ params, Parameters.empty.bindAll t.bindings = .ok params :=
    Parameters.bindAll_of_fresh (by simp) named.nodup
  have same : params.names = q.parameters.names := by
    refine eq_of_ascending params.names_ascending q.parameters.names_ascending ?_
    intro n
    rw [mem_names_iff_binds bound', mem_names_iff_binds bound, Binds, Binds, h.names]
  rw [build_of_ok expressible' bound', ← h.statement]
  exact Query.check_alike checked same

end Alike

end Select

end TraceQuery
