/-
  Every request gives a closed query or names what is wrong with it.

  The three views make their selects of tables that are fixed in the program, and of columns that a
  request can name but not write.  The one exception is a score of an evaluation: its name is any text,
  and it stands in the query as a literal, as a name of the result and in the order of two joined runs.

  1. **Tables**: the columns, the sort expressions and the filters of each view are plain and clean,
     those of scores because quoting makes any name plain (`Evaluation.plain_standardColumns`).
  2. **Selects**: so every select of a view is one that agrees with itself (`Select.Agreeing`); that of
     an evaluation is so for all columns that refer to nothing (`EvalOptions.agreeing_primary`).
  3. **Queries around queries**: a closed query can stand inside another text (`reads_countRowsOf`,
     `Evaluation.reads_joinedText`), and two runs share no name, so their parameters go together.
  4. **Requests** (`Request.query_closed`).

  Mathlib-free.
-/
import TraceQuery.Request.Kind
import TraceQuery.Proofs.Filter.Typing
import TraceQuery.Proofs.Select.Agreeing

namespace TraceQuery

open TraceQuery.Sql

/-! ## Answers -/

/-- A closed query, or the error of one of the filters. -/
def Answers (filters : List Filter) (outcome : Except QueryError Query) : Prop :=
  (∃ q, outcome = .ok q ∧ q.Closed) ∨ ∃ f ∈ filters, outcome = .error f.unsupported

/-- A select that agrees with itself answers for its filters. -/
theorem Select.Agreeing.answers {s : Select} (h : s.Agreeing) :
    Answers (s.filters ++ s.groupFilters) s.build := by
  rcases h.build with ⟨q, built, closed, _⟩ | failed
  · exact .inl ⟨q, built, closed⟩
  · exact .inr failed

/-- More filters may be named than have failed. -/
theorem Answers.mono {fs gs : List Filter} {outcome : Except QueryError Query}
    (h : Answers fs outcome) (sub : ∀ f ∈ fs, f ∈ gs) : Answers gs outcome := by
  rcases h with answered | ⟨f, hf, failed⟩
  · exact .inl answered
  · exact .inr ⟨f, sub f hf, failed⟩

/-! ## What the views share -/

/-- The clause of a page, if there is one. -/
def pageText (page : Option Page) : Option String := (page.map Page.clause).map Condition.text

/-- A window on the asked column or none, or a date that is no timestamp. -/
theorem TimeInput.resolve_cases (input : TimeInput) (column : String) :
    (∃ text, input.resolve column = .error (.invalidTimestamp text)) ∨
      ∃ window, input.resolve column = .ok window ∧ ∀ range ∈ window, range.column = column := by
  have reads (text : String) : readTimestamp text = .error (.invalidTimestamp text) ∨
      ∃ i, readTimestamp text = .ok i := by
    rw [readTimestamp]
    cases Time.Instant.read text with
    | none => exact .inl rfl
    | some i => exact .inr ⟨i, rfl⟩
  have look : ∀ range ∈ (input.pastHours.bind readLookBack).map fun hours =>
      (⟨column, .pastHours hours⟩ : TimeRange), range.column = column := by
    intro range hr
    obtain ⟨hours, _, rfl⟩ := Option.map_eq_some_iff.mp hr
    rfl
  rw [resolve]
  split
  · -- both dates are there: the first that is no timestamp is the error
    rename_i start stop _ _
    rcases reads start with h | ⟨i, hi⟩
    · exact .inl ⟨start, by rw [h]; rfl⟩
    · rcases reads stop with h | ⟨j, hj⟩
      · exact .inl ⟨stop, by rw [hi, h]; rfl⟩
      · refine .inr ⟨some ⟨column, .between i j⟩, by rw [hi, hj]; rfl, ?_⟩
        intro range hr
        rw [← Option.some.inj hr]
  · exact .inr ⟨_, rfl, look⟩

/-- A window that a request selects is on the column asked for. -/
theorem TimeInput.onColumn_of_resolve {input : TimeInput} {column : String}
    {window : Option TimeRange} (h : input.resolve column = .ok window) :
    ∀ range ∈ window, range.column = column := by
  rcases input.resolve_cases column with ⟨text, failed⟩ | ⟨window, resolved, onColumn⟩
  · rw [failed] at h
    cases h
  · rw [resolved] at h
    exact Except.ok.inj h ▸ onColumn

/-- What is built over the window of a request answers, or a date is no timestamp. -/
theorem answers_over {fs : List Filter} (input : TimeInput) {column : String}
    {next : Option TimeRange → Except QueryError Query}
    (h : ∀ window, (∀ range ∈ window, range.column = column) → Answers fs (next window)) :
    Answers fs ((input.resolve column).bind next) ∨
      ∃ text, (input.resolve column).bind next = .error (.invalidTimestamp text) := by
  rcases input.resolve_cases column with ⟨text, failed⟩ | ⟨window, hw, onColumn⟩
  · refine .inr ⟨text, ?_⟩
    rw [failed]
    rfl
  · refine .inl ?_
    rw [hw]
    exact h window onColumn

/-- Whatever a request sorts by, the expression is one of the table's. -/
theorem plain_resolveSort {sortable : List (String × String)} {default : SortTerm}
    (hs : ∀ column ∈ sortable, Plain column.2) (hd : Plain default.expression)
    (sortBy : Option String) (direction : Option Direction) :
    Plain (resolveSort sortBy direction sortable default).expression := by
  cases sortBy with
  | none => exact hd
  | some id =>
    simp only [resolveSort]
    split
    · rename_i found
      exact hs _ (List.mem_of_find?_eq_some found)
    · exact hd

theorem plain_countColumn : ∀ t ∈ [countColumn], Plain t := by decide

theorem silent_countColumn : ∀ t ∈ [countColumn], Silent t :=
  fun t ht => (plain_countColumn t ht).silent

/-- No order at all. -/
theorem plain_unordered : ∀ t ∈ ([] : List SortTerm), Plain t.expression := fun _ ht => nomatch ht

theorem Condition.filled_fixed {text : String} (h : Plain text) : (Condition.fixed text).Filled :=
  ⟨[], h.silent, rfl⟩

section

variable {column param : String}

/-- A condition on ids refers to one list, which it binds. -/
theorem filled_idsConditions (hc : Plain column) (hp : isName param.toList = true)
    (apart : param ∉ countNames) (ids : List String) :
    ∀ c ∈ idsConditions column param ids, c.Filled := by
  have front : Plain (column ++ " IN (") := hc.append (by decide)
  have whole := Reads.front front
    (Reads.placeholder hp (.array .uuid) (Reads.plain (show Plain ")" by decide)))
  rw [← String.append_assoc] at whole
  intro c hmem
  rw [idsConditions] at hmem
  split at hmem
  · cases hmem
  · rw [List.mem_singleton.mp hmem]
    exact ⟨[.ofName param (.array .uuid) (.strings ids) rfl apart], whole, rfl⟩

/-- Conditions on ids bind one name, or none where there are no ids. -/
theorem names_idsConditions (column param : String) (ids : List String) :
    (namesOf (idsConditions column param ids)).Sublist [param] := by
  rw [idsConditions]
  split
  · exact List.nil_sublist _
  · exact List.Sublist.refl _

end

/-! ## Spans -/

namespace Spans

theorem plain_columns : ∀ t ∈ columns, Plain t := by decide +kernel

theorem plain_sortable : ∀ column ∈ sortable, Plain column.2 := by decide +kernel

theorem clean_columnFilters : columnFilters.Clean := ColumnFilters.all_ofList (by decide +kernel)

end Spans

namespace SpansRequest

variable (r : SpansRequest)

theorem filled_conditions : ∀ c ∈ r.conditions, c.Filled := by
  intro c hc
  rcases List.mem_append.mp hc with hc | hc
  · exact filled_idsConditions (by decide) (by decide) (by decide) _ c hc
  · exact filled_idsConditions (by decide) (by decide) (by decide) _ c hc

theorem names_conditions : (namesOf r.conditions).Sublist fixedNames := by
  rw [conditions, namesOf_append]
  have ids := (names_idsConditions "span_id" "spanIds" r.spanIds).append
    (names_idsConditions "trace_id" "traceIds" r.traceIds)
  exact ids.trans (List.sublist_append_right ["evaluationId", "targetId"] ["spanIds", "traceIds"])

/-- The select of the list and of the count, over a window. -/
def selectOf (columns : List String) (window : Option TimeRange) (orderBy : List SortTerm)
    (page : Option Page) : Select :=
  { Select.plain columns Spans.table with
    timeRange := window
    filters := r.filters
    columnFilters := some Spans.columnFilters
    conditions := r.conditions
    orderBy
    page }

/-- The order of the list. -/
def order : SortTerm := resolveSort r.sortBy r.sortDirection Spans.sortable Spans.defaultSort

/-- The list is the build of a select over the window of the request. -/
theorem listQuery_eq : r.listQuery = (r.time.resolve "start_time").bind fun window =>
    (r.selectOf Spans.columns window [r.order] r.page.page?).build :=
  bind_ok_bind _ _ _

theorem countQuery_eq : r.countQuery = (r.time.resolve "start_time").bind fun window =>
    (r.selectOf [countColumn] window [] none).build :=
  bind_ok_bind _ _ _

/-- A select of spans with plain columns and a plain order agrees with itself. -/
theorem agreeing_selectOf {columns : List String} (hc : ∀ t ∈ columns, Plain t)
    {window : Option TimeRange} (hw : ∀ range ∈ window, range.column = "start_time")
    {orderBy : List SortTerm} (ho : ∀ t ∈ orderBy, Plain t.expression) (page : Option Page) :
    (r.selectOf columns window orderBy page).Agreeing where
  columns := fun t ht => (hc t ht).silent
  table := (show Plain Spans.table by decide).silent
  window := fun range hr => hw range hr ▸ (show Plain "start_time" by decide).silent
  groupBy := fun _ ht => nomatch ht
  orderBy := fun t ht => (ho t ht).silent
  rows := fun _ hcs => Option.some.inj hcs ▸ Spans.clean_columnFilters.silent
  groups := fun _ hcs => nomatch hcs
  agrees := fun c hc => (r.filled_conditions c hc).agrees
  fixed := r.names_conditions

theorem plain_order : ∀ t ∈ [r.order], Plain t.expression := by
  intro t ht
  rw [List.mem_singleton.mp ht]
  exact plain_resolveSort Spans.plain_sortable (by decide) _ _

/-- The list answers, or a date is no timestamp. -/
theorem listQuery_answers : Answers r.filters r.listQuery ∨
    ∃ text, r.listQuery = .error (.invalidTimestamp text) := by
  rw [listQuery_eq]
  refine answers_over r.time fun window hw => ?_
  exact (r.agreeing_selectOf Spans.plain_columns hw r.plain_order _).answers.mono
    (by simp [selectOf, Select.plain])

theorem countQuery_answers : Answers r.filters r.countQuery ∨
    ∃ text, r.countQuery = .error (.invalidTimestamp text) := by
  rw [countQuery_eq]
  refine answers_over r.time fun window hw => ?_
  exact (r.agreeing_selectOf plain_countColumn hw plain_unordered none).answers.mono
    (by simp [selectOf, Select.plain])

end SpansRequest

/-! ## Sessions -/

namespace Sessions

theorem plain_columns : ∀ t ∈ columns, Plain t := by decide +kernel

theorem plain_sortable : ∀ column ∈ sortable, Plain column.2 := by decide +kernel

theorem clean_columnFilters : columnFilters.Clean := ColumnFilters.all_ofList (by decide +kernel)

theorem clean_aggregateFilters : aggregateFilters.Clean :=
  ColumnFilters.all_ofList (by decide +kernel)

end Sessions

/-- The count of the rows of a query refers to what the query refers to. -/
theorem reads_countRowsOf {inner : String} (h : Balanced inner) :
    Reads (SessionsRequest.countRowsOf inner) (references inner) := by
  have front : Plain ("SELECT " ++ countColumn ++ "\nFROM (\n") := by decide
  exact (Reads.front front h.reads).back (show Plain "\n)" by decide) (by decide)

/-- The count of the rows of a closed query is one: it binds nothing, and refers to what the query inside
    refers to. -/
theorem Query.Closed.countRows {inner : Query} (h : inner.Closed) :
    Query.check (SessionsRequest.countRowsOf inner.text) inner.parameters
        = .ok ⟨SessionsRequest.countRowsOf inner.text, inner.parameters⟩ ∧
      Query.Closed ⟨SessionsRequest.countRowsOf inner.text, inner.parameters⟩ := by
  have reads := reads_countRowsOf h.balanced
  refine Query.check_closed reads.balanced fun n => ?_
  rw [mem_placeholderNames, reads.references, ← mem_placeholderNames, h.names]

namespace SessionsRequest

variable (r : SessionsRequest)

theorem filled_conditions : ∀ c ∈ r.conditions, c.Filled := by
  intro c hc
  rcases List.mem_cons.mp hc with rfl | hc
  · exact Condition.filled_fixed (by decide)
  · exact filled_idsConditions (by decide) (by decide) (by decide) _ c hc

theorem names_conditions : (namesOf r.conditions).Sublist fixedNames := by
  rw [conditions, namesOf_cons]
  have ids := names_idsConditions "id" "traceIds" r.traceIds
  exact ids.trans (List.sublist_append_right ["evaluationId", "targetId", "spanIds"] ["traceIds"])

/-- The select of the list and of the count, over a window. -/
def selectOf (columns : List String) (window : Option TimeRange) (groupBy : List String)
    (orderBy : List SortTerm) (page : Option Page) : Select :=
  { Select.plain columns Sessions.table with
    timeRange := window
    filters := (Sessions.splitFilters r.filters).1
    columnFilters := some Sessions.columnFilters
    conditions := r.conditions
    groupBy
    groupFilters := (Sessions.splitFilters r.filters).2
    groupColumnFilters := some Sessions.aggregateFilters
    orderBy
    page }

/-- The order of the list. -/
def order : SortTerm :=
  resolveSort r.sortBy r.sortDirection Sessions.sortable Sessions.defaultSort

/-- The list is the build of a select over the window of the request. -/
theorem listQuery_eq : r.listQuery = (r.time.resolve "start_time").bind fun window =>
    (r.selectOf Sessions.columns window ["session_id"] [r.order] r.page.page?).build :=
  bind_ok_bind _ _ _

/-- The count of the distinct sessions, or of the groups that are left. -/
def countOf (window : Option TimeRange) : Except QueryError Query :=
  if (Sessions.splitFilters r.filters).2.isEmpty then
    (r.selectOf [aliased "COUNT(DISTINCT session_id)" "count"] window [] [] none).build
  else
    (r.selectOf ["session_id"] window ["session_id"] [] none).build.bind fun inner =>
      Query.check (countRowsOf inner.text) inner.parameters

/-- The count is built over the window too, but it depends on the filters what is built. -/
theorem countQuery_eq : r.countQuery = (r.time.resolve "start_time").bind r.countOf :=
  bind_ok_bind _ _ _

/-- A select of sessions with plain columns, groups and order agrees with itself. -/
theorem agreeing_selectOf {columns : List String} (hc : ∀ t ∈ columns, Plain t)
    {window : Option TimeRange} (hw : ∀ range ∈ window, range.column = "start_time")
    {groupBy : List String} (hg : ∀ t ∈ groupBy, Plain t)
    {orderBy : List SortTerm} (ho : ∀ t ∈ orderBy, Plain t.expression) (page : Option Page) :
    (r.selectOf columns window groupBy orderBy page).Agreeing where
  columns := fun t ht => (hc t ht).silent
  table := (show Plain Sessions.table by decide).silent
  window := fun range hr => hw range hr ▸ (show Plain "start_time" by decide).silent
  groupBy := fun t ht => (hg t ht).silent
  orderBy := fun t ht => (ho t ht).silent
  rows := fun _ hcs => Option.some.inj hcs ▸ Sessions.clean_columnFilters.silent
  groups := fun _ hcs => Option.some.inj hcs ▸ Sessions.clean_aggregateFilters.silent
  agrees := fun c hc => (r.filled_conditions c hc).agrees
  fixed := r.names_conditions

/-- The filters on rows and on groups are those of the request. -/
theorem mem_splitFilters {f : Filter}
    (h : f ∈ (Sessions.splitFilters r.filters).1 ++ (Sessions.splitFilters r.filters).2) :
    f ∈ r.filters := by
  rcases List.mem_append.mp h with h | h
  · exact (List.mem_filter.mp h).1
  · exact (List.mem_filter.mp h).1

theorem plain_order : ∀ t ∈ [r.order], Plain t.expression := by
  intro t ht
  rw [List.mem_singleton.mp ht]
  exact plain_resolveSort Sessions.plain_sortable (by decide) _ _

/-- The column of the sessions, and of their groups. -/
theorem plain_sessionIds : ∀ t ∈ ["session_id"], Plain t := by decide

/-- What a select is grouped by that has no groups. -/
theorem plain_ungrouped : ∀ t ∈ ([] : List String), Plain t := fun _ ht => nomatch ht

/-- The column of a count of distinct sessions. -/
theorem plain_distinctColumn : ∀ t ∈ [aliased "COUNT(DISTINCT session_id)" "count"], Plain t := by
  decide

/-- The list answers, or a date is no timestamp. -/
theorem listQuery_answers : Answers r.filters r.listQuery ∨
    ∃ text, r.listQuery = .error (.invalidTimestamp text) := by
  rw [listQuery_eq]
  refine answers_over r.time fun window hw => ?_
  exact (r.agreeing_selectOf Sessions.plain_columns hw plain_sessionIds r.plain_order _).answers.mono
    fun f hf => r.mem_splitFilters hf

/-- Over a window the count answers. -/
theorem countOf_answers {window : Option TimeRange}
    (hw : ∀ range ∈ window, range.column = "start_time") :
    Answers r.filters (r.countOf window) := by
  have sub := fun f hf => r.mem_splitFilters (f := f) hf
  rw [countOf]
  split
  · -- no filter on groups: the distinct sessions are counted
    exact (r.agreeing_selectOf plain_distinctColumn hw plain_ungrouped plain_unordered none).answers.mono sub
  · -- else the groups that are left are counted, by a query around the select
    rcases (r.agreeing_selectOf plain_sessionIds hw plain_sessionIds plain_unordered
      none).answers.mono sub with
      ⟨inner, built, closed⟩ | ⟨f, hf, failed⟩
    · refine .inl ⟨_, ?_, closed.countRows.2⟩
      rw [built]
      exact closed.countRows.1
    · refine .inr ⟨f, hf, ?_⟩
      rw [failed]
      rfl

theorem countQuery_answers : Answers r.filters r.countQuery ∨
    ∃ text, r.countQuery = .error (.invalidTimestamp text) := by
  rw [countQuery_eq]
  exact answers_over r.time fun window hw => r.countOf_answers hw

end SessionsRequest

/-! ## Evaluations -/

namespace EvalColumn

/-- A column of plain SQL; its id may be any text. -/
structure Plain (c : EvalColumn) : Prop where
  sql : Sql.Plain c.sql
  filterExpression : Sql.Plain c.filterExpression

/-- Whether a column is plain can be computed. -/
instance : DecidablePred Plain := fun c =>
  decidable_of_iff (Sql.Plain c.sql ∧ Sql.Plain c.filterExpression)
    ⟨fun h => ⟨h.1, h.2⟩, fun h => ⟨h.sql, h.filterExpression⟩⟩

/-- A column of SQL that refers to nothing; its id may be any text. -/
structure Silent (c : EvalColumn) : Prop where
  sql : Sql.Silent c.sql
  filterExpression : Sql.Silent c.filterExpression

theorem Plain.silent {c : EvalColumn} (h : c.Plain) : c.Silent :=
  ⟨h.sql.silent, h.filterExpression.silent⟩

theorem silent_projection {c : EvalColumn} (h : c.Silent) : Sql.Silent c.projection :=
  h.sql.aliased c.id

/-- A column is filtered as a text, under its own expression or under its text, as an array or as a
    number. -/
theorem filter?_cases {c : EvalColumn} {f : ColumnFilter} (h : c.filter? = some f) :
    f = .string c.filterExpression ∨ f = .string ("toString(" ++ c.filterExpression ++ ")") ∨
      (∃ element, f = .array c.filterExpression element) ∨
      ∃ type, f = .number c.filterExpression type := by
  simp only [filter?] at h
  split at h
  · cases h
  · exact .inl (Option.some.inj h).symm
  · exact .inr (.inl (Option.some.inj h).symm)
  · exact .inr (.inr (.inl ⟨_, (Option.some.inj h).symm⟩))
  · obtain ⟨type, _, same⟩ := Option.map_eq_some_iff.mp h
    exact .inr (.inr (.inr ⟨type, same.symm⟩))

/-- The filter of a column is one of the library. -/
theorem isCustom_of_filter? {c : EvalColumn} {f : ColumnFilter} (h : c.filter? = some f) :
    f.isCustom = false := by
  rcases filter?_cases h with rfl | rfl | ⟨element, rfl⟩ | ⟨type, rfl⟩
  · rfl
  · rfl
  · rfl
  · rfl

/-- Over a column that refers to nothing the filter is silent. -/
theorem silent_filter? {c : EvalColumn} (hc : c.Silent) {f : ColumnFilter} (h : c.filter? = some f) :
    f.Silent := by
  rcases filter?_cases h with rfl | rfl | ⟨element, rfl⟩ | ⟨type, rfl⟩
  · exact hc.filterExpression
  · have front : Sql.Silent ("toString(" ++ c.filterExpression) :=
      Reads.front (by decide) hc.filterExpression
    exact front.back (show Sql.Plain ")" by decide) (by decide)
  · exact hc.filterExpression
  · exact hc.filterExpression

end EvalColumn

namespace Evaluation

/-- The filters of a run's columns are the library's own. -/
theorem own_columnFilters (columns : List EvalColumn) : (columnFilters columns).Own := by
  refine ColumnFilters.all_ofList ?_
  intro e he
  obtain ⟨c, _, he⟩ := List.mem_filterMap.mp he
  obtain ⟨f, hf, rfl⟩ := Option.map_eq_some_iff.mp he
  exact EvalColumn.isCustom_of_filter? hf

theorem silent_columnFilters {columns : List EvalColumn} (h : ∀ c ∈ columns, c.Silent) :
    (columnFilters columns).Silent := by
  refine ColumnFilters.all_ofList ?_
  intro e he
  obtain ⟨c, hc, he⟩ := List.mem_filterMap.mp he
  obtain ⟨f, hf, rfl⟩ := Option.map_eq_some_iff.mp he
  exact EvalColumn.silent_filter? (h c hc) hf

/-- The columns of a run are plain, whatever the names of its scores are. -/
theorem plain_standardColumns (scores : List String) : ∀ c ∈ standardColumns scores, c.Plain := by
  have fixed : ∀ c ∈ standardColumns [], c.Plain := by decide +kernel
  intro c hc
  rcases List.mem_append.mp hc with hc | hc
  · exact fixed c (List.mem_append_left _ hc)
  · obtain ⟨name, _, rfl⟩ := List.mem_map.mp hc
    have sql : Plain (scoreColumn name).sql := by
      show Plain ("JSONExtractFloat(dp.scores, " ++ quoteLiteral name ++ ")")
      exact Plain.append (Plain.append (by decide) (plain_quoteLiteral name)) (by decide)
    exact ⟨sql, sql⟩

theorem silent_standardColumns (scores : List String) : ∀ c ∈ standardColumns scores, c.Silent :=
  fun c hc => (plain_standardColumns scores c hc).silent

/-- What holds of the columns and of the index holds of the columns with an index. -/
theorem withIndex_all {P : EvalColumn → Prop} (index : P indexColumn) {columns : List EvalColumn}
    (h : ∀ c ∈ columns, P c) : ∀ c ∈ withIndex columns, P c := by
  rw [withIndex]
  split
  · exact h
  · intro c hc
    rcases List.mem_cons.mp hc with rfl | hc
    · exact index
    · exact h c hc

/-- The columns of a request have an index. -/
theorem withIndex_standardColumns (scores : List String) :
    withIndex (standardColumns scores) = standardColumns scores := by
  rw [withIndex, if_pos]
  simp [standardColumns, indexColumn, EvalColumn.typed]

/-- A run is sorted by one of its columns, or by the index if none of them has its id. -/
theorem orderColumn_cases (sort : Option EvalSort) (columns : List EvalColumn) :
    (orderColumn sort columns).1 ∈ columns ∨
      ((orderColumn sort columns).1 = indexColumn ∧ ∀ c ∈ columns, (c.id == indexId) = false) := by
  rw [orderColumn]
  cases requested : sort.bind fun s =>
      (columns.find? fun c => c.id == s.column).map fun c => (c, s.direction) with
  | some hit =>
    obtain ⟨s, _, hs⟩ := Option.bind_eq_some_iff.mp requested
    obtain ⟨c, hc, rfl⟩ := Option.map_eq_some_iff.mp hs
    exact .inl (List.mem_of_find?_eq_some hc)
  -- nothing asked for that is a column: the index is looked for among the columns
  | none =>
    show (columns.find? fun c => c.id == indexId).getD indexColumn ∈ columns ∨
      ((columns.find? fun c => c.id == indexId).getD indexColumn = indexColumn ∧ _)
    cases own : columns.find? fun c => c.id == indexId with
    | some c => exact .inl (List.mem_of_find?_eq_some own)
    | none => exact .inr ⟨rfl, fun c hc => by simpa using List.find?_eq_none.mp own c hc⟩

/-- What holds of the columns and of the index holds of the column that sorts the run. -/
theorem orderColumn_all {P : EvalColumn → Prop} (index : P indexColumn) {columns : List EvalColumn}
    (h : ∀ c ∈ columns, P c) (sort : Option EvalSort) : P (orderColumn sort columns).1 := by
  rcases orderColumn_cases sort columns with own | ⟨same, _⟩
  · exact h _ own
  · rw [same]
    exact index

theorem filled_runCondition {param : String} (hp : isName param.toList = true)
    (apart : param ∉ countNames) (run : String) :
    (runCondition param run).Filled :=
  ⟨[.ofName param .uuid (.string run) rfl apart],
    Reads.front (by decide) (reads_placeholder hp .uuid), rfl⟩

/-- The columns of two joined runs are plain: they stand in the statement by their ids alone. -/
theorem plain_joinedColumns (columns : List EvalColumn) : ∀ t ∈ joinedColumns columns, Plain t := by
  intro t ht
  rcases List.mem_append.mp ht with ht | ht
  · obtain ⟨c, _, rfl⟩ := List.mem_map.mp ht
    exact (Plain.append (by decide) (plain_quoteIdentifier c.id)).aliased c.id
  · obtain ⟨c, _, rfl⟩ := List.mem_map.mp ht
    exact (Plain.append (by decide) (plain_quoteIdentifier c.id)).aliased (comparedMark ++ c.id)

/-- Two joined runs refer to what the one and then the other refers to. -/
theorem reads_joinedText {primary compared : String} (hp : Balanced primary)
    (hc : Balanced compared) (columns : List EvalColumn) (sort : EvalSort) :
    Reads (joinedText primary compared columns sort)
      (references primary ++ references compared) := by
  have quoted {mark : String} (hm : Plain mark) (id : String) : Plain (mark ++ quoteIdentifier id) :=
    hm.append (plain_quoteIdentifier id)
  have front : Plain ("SELECT " ++ ", ".intercalate (joinedColumns columns) ++ "\nFROM (\n") := by
    have columns := Plain.intercalate (show Plain ", " by decide) (plain_joinedColumns columns)
    exact Plain.append (Plain.append (by decide) columns) (by decide)
  have runs := Reads.glued (Reads.front front hp.reads)
    (show Glue "\n) AS p\nANY LEFT JOIN (\n" by decide) hc.reads
  have join : Plain (primaryName indexId ++ " = " ++ comparedName indexId) :=
    Plain.append (Plain.append (quoted (by decide) indexId) (by decide)) (quoted (by decide) indexId)
  have order : Plain ("\nORDER BY " ++ primaryName sort.column ++ " " ++ sort.direction.sql) := by
    have column : Plain ("\nORDER BY " ++ primaryName sort.column) :=
      Plain.append (by decide) (quoted (by decide) sort.column)
    rw [String.append_assoc]
    exact column.append sort.direction.plain_sql.1
  have tail := Plain.append (join.append order) (show Plain "\nSETTINGS join_use_nulls = 1" by decide)
  -- what stands behind the two runs is one plain text
  have whole := runs.glued (show Glue "\n) AS c ON " by decide) (Reads.plain tail)
  have grouped (a b c d e f g h i j : String) :
      a ++ b ++ (c ++ d ++ e ++ (f ++ g ++ h ++ i) ++ j)
        = a ++ b ++ c ++ d ++ e ++ f ++ g ++ h ++ i ++ j := by
    simp only [String.append_assoc]
  rw [grouped, List.append_nil] at whole
  exact whole

/-- Two closed queries that share no name are joined to a closed one. -/
theorem comparison_closed {primary compared : Query} (hp : primary.Closed) (hc : compared.Closed)
    (apart : ∀ n ∈ compared.parameters.names, n ∉ primary.parameters.names)
    (columns : List EvalColumn) (sort : EvalSort) :
    ∃ q, comparison primary compared columns sort = .ok q ∧ q.Closed := by
  obtain ⟨params, bound⟩ : ∃ params,
      primary.parameters.bindAll compared.parameters.entries = .ok params :=
    Parameters.bindAll_of_fresh apart compared.parameters.names_nodup
  have reads := reads_joinedText hp.balanced hc.balanced columns sort
  have same (n : String) : n ∈ placeholderNames (joinedText primary.text compared.text columns sort) ↔
      n ∈ params.names := by
    rw [Parameters.mem_names_of_bindAll bound, mem_placeholderNames, reads.references,
      List.map_append, List.mem_append, ← mem_placeholderNames, ← mem_placeholderNames, hp.names,
      hc.names]
    rfl
  obtain ⟨checked, closed⟩ := Query.check_closed reads.balanced same
  refine ⟨_, ?_, closed⟩
  show (primary.parameters.bindAll compared.parameters.entries).bind _ = _
  rw [bound]
  exact checked

/-- The projection of columns that refer to nothing refers to nothing. -/
theorem silent_projections {columns : List EvalColumn} (h : ∀ c ∈ columns, c.Silent) :
    ∀ t ∈ columns.map EvalColumn.projection, Silent t := by
  intro t ht
  obtain ⟨c, hc, rfl⟩ := List.mem_map.mp ht
  exact EvalColumn.silent_projection (h c hc)

theorem filled_comparedSelect (target : String) (columns : List EvalColumn) :
    ∀ c ∈ (comparedSelect target columns).conditions, c.Filled := by
  intro c hc
  rw [List.mem_singleton.mp hc]
  exact filled_runCondition (by decide) (by decide) target

theorem agreeing_comparedSelect (target : String) {columns : List EvalColumn}
    (h : ∀ c ∈ columns, c.Silent) : (comparedSelect target columns).Agreeing where
  columns := silent_projections fun c hc => h c (List.mem_filter.mp hc).1
  table := (show Plain table by decide).silent
  window := fun _ hr => nomatch hr
  groupBy := fun _ ht => nomatch ht
  orderBy := fun _ ht => nomatch ht
  rows := fun _ hcs => nomatch hcs
  groups := fun _ hcs => nomatch hcs
  agrees := fun c hc => (filled_comparedSelect target columns c hc).agrees
  fixed := List.sublist_append_right ["evaluationId"] ["targetId"] |>.trans
    (List.sublist_append_left ["evaluationId", "targetId"] ["spanIds", "traceIds"])

end Evaluation

namespace EvalOptions

open Evaluation

variable (o : EvalOptions)

theorem filled_conditions : ∀ c ∈ o.conditions, c.Filled := by
  intro c hc
  rcases List.mem_cons.mp hc with rfl | hc
  · exact filled_runCondition (by decide) (by decide) o.evaluationId
  · exact filled_idsConditions (by decide) (by decide) (by decide) _ c hc

theorem names_conditions : (namesOf o.conditions).Sublist ["evaluationId", "traceIds"] := by
  rw [conditions, namesOf_cons]
  exact (List.Sublist.refl ["evaluationId"]).append (names_idsConditions _ _ _)

/-- The selects of the primary run. -/
def selectOf (projection : List String) (orderBy : List SortTerm) (page : Option Page) : Select :=
  { o.restricted projection with orderBy, page }

/-- A run on its own, or joined to the target run. -/
def joinTarget (primary : Query) : Except QueryError Query :=
  match o.targetId with
  | none => .ok primary
  | some target => (comparedSelect target o.allColumns).build.bind fun compared =>
      comparison primary compared o.allColumns ⟨o.order.1.id, o.order.2⟩

/-- A run is the build of a select, joined to the target run if there is one. -/
theorem runQuery_eq : o.runQuery =
    (o.selectOf (o.allColumns.map EvalColumn.projection) [⟨o.order.1.sql, o.order.2⟩] o.page).build.bind
      o.joinTarget := rfl

/-- If the primary run is built, it is joined to the target. -/
theorem runQuery_of_ok {primary : Query} (h : o.primarySelect.build = .ok primary) :
    o.runQuery = o.joinTarget primary := by
  show o.primarySelect.build.bind o.joinTarget = _
  rw [h]
  rfl

/-- If the primary run fails, so does the whole. -/
theorem runQuery_of_error {e : QueryError} (h : o.primarySelect.build = .error e) :
    o.runQuery = .error e := by
  show o.primarySelect.build.bind o.joinTarget = _
  rw [h]
  rfl

/-- Without a target the primary run is the whole. -/
theorem joinTarget_of_none (h : o.targetId = none) (primary : Query) :
    o.joinTarget primary = .ok primary := by
  rw [joinTarget, h]

/-- A run that is not joined is its primary run. -/
theorem runQuery_of_none (h : o.targetId = none) : o.runQuery = o.primarySelect.build := by
  cases built : o.primarySelect.build with
  | error e => exact o.runQuery_of_error built
  | ok primary => exact (o.runQuery_of_ok built).trans (o.joinTarget_of_none h primary)

/-- With a target its select is built, and the two are joined. -/
theorem joinTarget_of_some {target : String} (h : o.targetId = some target) (primary : Query) :
    o.joinTarget primary = (comparedSelect target o.allColumns).build.bind fun compared =>
      comparison primary compared o.allColumns ⟨o.order.1.id, o.order.2⟩ := by
  rw [joinTarget, h]

theorem fixed_selectOf : (namesOf o.conditions).Sublist fixedNames := by
  refine o.names_conditions.trans ?_
  decide

variable {o}

/-- A select of a run agrees with itself if its columns refer to nothing. -/
theorem agreeing_selectOf (hc : ∀ c ∈ o.allColumns, c.Silent) {projection : List String}
    (hp : ∀ t ∈ projection, Silent t) {orderBy : List SortTerm}
    (ho : ∀ t ∈ orderBy, Silent t.expression) (page : Option Page) :
    (o.selectOf projection orderBy page).Agreeing where
  columns := hp
  table := (show Plain table by decide).silent
  window := fun _ hr => nomatch hr
  groupBy := fun _ ht => nomatch ht
  orderBy := ho
  rows := fun _ hcs => Option.some.inj hcs ▸ silent_columnFilters hc
  groups := fun _ hcs => nomatch hcs
  agrees := fun c hc => (o.filled_conditions c hc).agrees
  fixed := o.fixed_selectOf

/-- There is always an index to show. -/
theorem index_mem_allColumns (o : EvalOptions) : ∃ c ∈ o.allColumns, (c.id == indexId) = true := by
  rw [allColumns, withIndex]
  split
  · rename_i found
    exact List.any_eq_true.mp found
  · exact ⟨indexColumn, List.mem_cons_self, by decide⟩

theorem silent_allColumns (hc : ∀ c ∈ o.columns, c.Silent) : ∀ c ∈ o.allColumns, c.Silent :=
  withIndex_all (EvalColumn.Plain.silent (by decide)) hc

theorem silent_order (hc : ∀ c ∈ o.columns, c.Silent) :
    ∀ t ∈ [(⟨o.order.1.sql, o.order.2⟩ : SortTerm)], Silent t.expression := by
  intro t ht
  rw [List.mem_singleton.mp ht]
  exact (orderColumn_all (P := EvalColumn.Silent) (EvalColumn.Plain.silent (by decide))
    (silent_allColumns hc) o.sort).sql

/-- The select of the primary run. -/
theorem agreeing_primary (hc : ∀ c ∈ o.columns, c.Silent) : o.primarySelect.Agreeing :=
  agreeing_selectOf (silent_allColumns hc) (silent_projections (silent_allColumns hc))
    (silent_order hc) o.page

/-- The primary run never binds the name of the target. -/
theorem targetId_not_bound {projection : List String} {orderBy : List SortTerm} {page : Option Page}
    (h : (o.selectOf projection orderBy page).Named) :
    ¬(o.selectOf projection orderBy page).Binds "targetId" := by
  intro hn
  have own := h.mem_ownBindings (by decide) hn
  have names : (o.selectOf projection orderBy page).ownBindings.Sublist
      (["evaluationId", "traceIds"] ++ Page.names) := by
    refine List.Sublist.append o.names_conditions ?_
    cases page with
    | none => exact List.nil_sublist _
    | some page => exact List.Sublist.refl _
  exact absurd (names.subset own) (by decide)

/-- A target run shares no name with the primary run. -/
theorem apart_compared (hc : ∀ c ∈ o.columns, c.Silent) {primary compared : Query} {target : String}
    (hp : o.primarySelect.build = .ok primary)
    (ht : (comparedSelect target o.allColumns).build = .ok compared) :
    ∀ n ∈ compared.parameters.names, n ∉ primary.parameters.names := by
  intro n hn hn'
  have bound {s : Select} {q : Query} (h : s.build = .ok q) (hn : n ∈ q.parameters.names) :
      s.Binds n := (Select.mem_names_iff_binds (Select.of_build_eq_ok h).2.1).mp hn
  have name : n = "targetId" := List.mem_singleton.mp (bound ht hn)
  exact targetId_not_bound (agreeing_primary hc).named (name ▸ bound hp hn')

/-- A run whose columns refer to nothing is joined to any target run. -/
theorem joinTarget_closed (hc : ∀ c ∈ o.columns, c.Silent) {primary : Query}
    (h : o.primarySelect.build = .ok primary) : ∃ q, o.joinTarget primary = .ok q ∧ q.Closed := by
  have closed := (agreeing_primary hc).closed h
  cases ht : o.targetId with
  | none => exact ⟨primary, o.joinTarget_of_none ht primary, closed⟩
  | some target =>
    have agreeing := agreeing_comparedSelect target (silent_allColumns hc)
    rcases agreeing.build with ⟨compared, built, closed', _⟩ | ⟨f, hf, _⟩
    · rw [o.joinTarget_of_some ht, built]
      exact comparison_closed closed closed' (apart_compared hc h built) o.allColumns
        ⟨o.order.1.id, o.order.2⟩
    · cases hf

/-- A run whose filters can be expressed is built, with a target run or without. -/
theorem runQuery_closed (hc : ∀ c ∈ o.columns, c.Silent)
    (expressible : ∀ e, .error e ∉ o.primarySelect.outcomes) :
    ∃ q, o.runQuery = .ok q ∧ q.Closed := by
  obtain ⟨primary, built, _⟩ := (agreeing_primary hc).build_of_expressible expressible
  rw [o.runQuery_of_ok built]
  exact joinTarget_closed hc built

/-- Datapoints of one run, or of two side by side. -/
theorem runQuery_answers (hc : ∀ c ∈ o.columns, c.Plain) : Answers o.filters o.runQuery := by
  have silent : ∀ c ∈ o.columns, c.Silent := fun c hmem => (hc c hmem).silent
  rcases (agreeing_primary silent).build with ⟨primary, built, _⟩ | ⟨f, hf, failed⟩
  · rw [o.runQuery_of_ok built]
    exact .inl (joinTarget_closed silent built)
  · exact .inr ⟨f, by simpa [primarySelect, restricted, Select.plain] using hf,
      o.runQuery_of_error failed⟩

/-- What the statistics show. -/
theorem silent_averages (hc : ∀ c ∈ o.columns, c.Silent) :
    ∀ t ∈ ((o.allColumns.filter fun c => c.id != indexId && c.isNumeric).map averageColumn) ++
      [countColumn], Silent t := by
  intro t ht
  rcases List.mem_append.mp ht with ht | ht
  · obtain ⟨c, hmem, rfl⟩ := List.mem_map.mp ht
    have sql := (silent_allColumns hc c (List.mem_filter.mp hmem).1).sql
    have front : Silent ("avg(" ++ c.sql) := Reads.front (by decide) sql
    exact Silent.aliased (front.back (show Plain ")" by decide) (by decide)) _
  · exact silent_countColumn t ht

/-- The select of the statistics or of the count. -/
theorem agreeing_whole (hc : ∀ c ∈ o.columns, c.Silent) {projection : List String}
    (hp : ∀ t ∈ projection, Silent t) : (o.selectOf projection [] none).Agreeing :=
  agreeing_selectOf (silent_allColumns hc) hp (fun t ht => (plain_unordered t ht).silent) none

theorem statsQuery_answers (hc : ∀ c ∈ o.columns, c.Plain) : Answers o.filters o.statsQuery := by
  have silent : ∀ c ∈ o.columns, c.Silent := fun c hmem => (hc c hmem).silent
  exact (agreeing_whole silent (silent_averages silent)).answers.mono
    (by simp [selectOf, restricted, Select.plain])

theorem countQuery_answers (hc : ∀ c ∈ o.columns, c.Plain) : Answers o.filters o.countQuery := by
  have silent : ∀ c ∈ o.columns, c.Silent := fun c hmem => (hc c hmem).silent
  exact (agreeing_whole silent silent_countColumn).answers.mono
    (by simp [selectOf, restricted, Select.plain])

end EvalOptions

/-! ## Requests -/

/-- The columns of a request refer to nothing, whatever its scores are called. -/
theorem EvalRequest.silent_columns (r : EvalRequest) : ∀ c ∈ r.toOptions.columns, c.Silent :=
  Evaluation.silent_standardColumns r.scoreNames

namespace Request

/-- A request for an evaluation always answers; any other one does, or a date of it is no
    timestamp. -/
theorem query_answers (kind : QueryKind) (r : Request) : Answers r.filters (r.query kind) ∨
    ((∀ request, r ≠ .eval request) ∧ ∃ text, r.query kind = .error (.invalidTimestamp text)) := by
  cases r with
  | spans r =>
    have list : ∀ request, Request.spans r ≠ .eval request := fun _ h => nomatch h
    rw [query]
    split
    · exact r.countQuery_answers.imp_right fun invalid => ⟨list, invalid⟩
    · exact r.listQuery_answers.imp_right fun invalid => ⟨list, invalid⟩
  | sessions r =>
    have list : ∀ request, Request.sessions r ≠ .eval request := fun _ h => nomatch h
    rw [query]
    split
    · exact r.countQuery_answers.imp_right fun invalid => ⟨list, invalid⟩
    · exact r.listQuery_answers.imp_right fun invalid => ⟨list, invalid⟩
  | eval r =>
    have columns : ∀ c ∈ r.toOptions.columns, c.Plain :=
      Evaluation.plain_standardColumns r.scoreNames
    cases kind with
    | evalStats => exact .inl (EvalOptions.statsQuery_answers columns)
    | evalCount => exact .inl (EvalOptions.countQuery_answers columns)
    | _ => exact .inl (EvalOptions.runQuery_answers columns)

/-- Whatever a request holds, the query of any kind refers to exactly its parameters; or one of the
    request's filters has an operator that its column cannot express; or a date of a request for spans
    or sessions is no timestamp.  No name is bound twice, none is missing and none is left over. -/
theorem query_closed (kind : QueryKind) (r : Request) :
    (∃ q, r.query kind = .ok q ∧ placeholderNames q.text = q.parameters.names) ∨
      (∃ f ∈ r.filters, r.query kind = .error (.unsupportedOperator f.column f.operator)) ∨
      ((∀ request, r ≠ .eval request) ∧ ∃ text, r.query kind = .error (.invalidTimestamp text)) := by
  rcases query_answers kind r with (⟨q, built, closed⟩ | failed) | invalid
  · exact .inl ⟨q, built, closed.names⟩
  · exact .inr (.inl failed)
  · exact .inr (.inr invalid)

end Request

end TraceQuery
