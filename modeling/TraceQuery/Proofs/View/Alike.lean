/-
  No value of a request gets into the text of its query.

  Two requests of one view are alike (`SpansRequest.Alike`, `SessionsRequest.Alike`,
  `EvalOptions.Alike`) if they differ in values only: in what filters compare with, in ids, in the
  bounds of a window of the same kind, in the counts of a page.  Then a builder that makes a query of
  the first makes one of the second, with the same text and the same names of parameters; the values
  bound are all that differs (`values_not_in_text`).

  Each builder is one select, or one check of a text around selects, so the two runs are followed
  select by select (`Select.Alike.build`).

  1. **Parts** (`TimeRange.condition_alike`, `idsConditions_alike`, `Select.rowOutcomes_alike`): windows
     of one kind, lists of ids that are both empty or both not, and filters that are alike give conditions
     that say the same.
  2. **Requests** (`follows_over`): where a window is resolved first, both resolve to one kind or fail.
  3. **Two runs** (`EvalOptions.Alike.runQuery`): the order of the joined statement names a column by its
     id, so the ids that are sorted by have to be the same beside the expressions.

-/
import TraceQuery.Proofs.Select.Alike
import TraceQuery.Proofs.View.Closed

namespace TraceQuery

open TraceQuery.Sql

/-! ## What the views share -/

/-- The two kinds of windows. -/
inductive TimeWindow.Kind where
  | absolute
  | lookBack
deriving DecidableEq, Repr

/-- Whether a window has two bounds or looks back. -/
def TimeWindow.kind : TimeWindow → Kind
  | .between _ _ => .absolute
  | .pastHours _ => .lookBack

/-- Two time selections that resolve without error to windows of one kind, or to none. -/
def TimeInput.Alike (a b : TimeInput) (column : String) : Prop :=
  ∃ v w, a.resolve column = .ok v ∧ b.resolve column = .ok w ∧
    v.map (fun range => range.window.kind) = w.map fun range => range.window.kind

/-- Windows of one kind on one column say the same and bind the same names. -/
theorem TimeRange.condition_alike {v w : TimeRange} (column : v.column = w.column)
    (kind : v.window.kind = w.window.kind) : v.condition.Alike w.condition := by
  obtain ⟨column', window⟩ := v
  obtain ⟨_, window'⟩ := w
  obtain rfl := column
  cases window with
  | between start stop =>
    cases window' with
    | between start' stop' => exact ⟨rfl, rfl⟩
    | pastHours hours => cases kind
  | pastHours hours =>
    cases window' with
    | between start stop => cases kind
    | pastHours hours' => exact ⟨rfl, rfl⟩

/-- Whether ids are asked for is all that the text tells of them. -/
theorem idsConditions_alike (column param : String) {ids ids' : List String}
    (h : ids.isEmpty = ids'.isEmpty) :
    List.Forall₂ Condition.Alike (idsConditions column param ids)
      (idsConditions column param ids') := by
  rw [idsConditions, idsConditions, ← h]
  split
  · exact .nil
  · exact .cons ⟨rfl, rfl⟩ .nil

/-- The outcomes of two WHERE clauses, part by part. -/
theorem Select.rowOutcomes_alike {s t : Select}
    (column : ∀ v ∈ s.timeRange, ∀ w ∈ t.timeRange, v.column = w.column)
    (kind : s.timeRange.map (fun range => range.window.kind)
      = t.timeRange.map fun range => range.window.kind)
    (filters : List.Forall₂ FilterOutcome.Alike (filterOutcomes "filter" s.columnFilters s.filters)
      (filterOutcomes "filter" t.columnFilters t.filters))
    (conditions : List.Forall₂ Condition.Alike s.conditions t.conditions) :
    List.Forall₂ FilterOutcome.Alike s.rowOutcomes t.rowOutcomes := by
  have given {cs ds : List Condition} (h : List.Forall₂ Condition.Alike cs ds) :
      List.Forall₂ FilterOutcome.Alike (cs.map fun c => .ok (some c))
        (ds.map fun d => .ok (some d)) := by
    induction h with
    | nil => exact .nil
    | cons head _ ih => exact .cons (.kept head) ih
  refine List.rel_append (List.rel_append ?_ filters) (given conditions)
  have both : s.timeRange.isSome = t.timeRange.isSome := by
    simpa only [Option.isSome_map] using congrArg Option.isSome kind
  rcases none_or_some both with ⟨hs, ht⟩ | ⟨v, w, hs, ht⟩
  · rw [hs, ht]
    exact .nil
  · rw [hs, ht] at kind ⊢
    exact .cons (.kept (TimeRange.condition_alike (column v hs w ht) (Option.some.inj kind))) .nil

/-- Two runs over windows of one kind follow one another if they do over every two such windows. -/
theorem follows_over {a b : TimeInput} {column : String} (h : a.Alike b column)
    {next next' : Option TimeRange → Except QueryError Query}
    (follows : ∀ v w, (∀ range ∈ v, range.column = column) → (∀ range ∈ w, range.column = column) →
      v.map (fun range => range.window.kind) = w.map (fun range => range.window.kind) →
      Follows (next v) (next' w)) :
    Follows ((a.resolve column).bind next) ((b.resolve column).bind next') := by
  obtain ⟨v, w, hv, hw, kind⟩ := h
  have onColumn {input : TimeInput} {window : Option TimeRange}
      (hr : input.resolve column = .ok window) : ∀ range ∈ window, range.column = column := by
    rcases input.resolve_cases column with ⟨text, failed⟩ | ⟨window', hr', onColumn⟩
    · rw [failed] at hr
      cases hr
    · rw [← Except.ok.inj (hr'.symm.trans hr)]
      exact onColumn
  rw [hv, hw]
  exact follows v w (onColumn hv) (onColumn hw) kind

/-! ## Spans -/

/-- Two requests for spans that differ in values only. -/
structure SpansRequest.Alike (r r' : SpansRequest) : Prop where
  /-- The filters are alike, one by one. -/
  filters : List.Forall₂ (Filter.Alike Spans.columnFilters) r.filters r'.filters
  /-- Both ask for ids or neither does. -/
  spanIds : r.spanIds.isEmpty = r'.spanIds.isEmpty
  traceIds : r.traceIds.isEmpty = r'.traceIds.isEmpty
  /-- The windows are of one kind. -/
  time : r.time.Alike r'.time "start_time"
  /-- They are sorted alike, -/
  order : r.order = r'.order
  /-- and both are paged or neither is. -/
  page : r.page.page?.isSome = r'.page.page?.isSome

namespace SpansRequest

variable {r r' : SpansRequest}

/-- A select of spans binds names of its own kinds. -/
theorem named_selectOf (r : SpansRequest) (columns : List String) (window : Option TimeRange)
    (orderBy : List SortTerm) (page : Option Page) :
    (r.selectOf columns window orderBy page).Named where
  rows := fun _ hcs => Option.some.inj hcs ▸ Spans.clean_columnFilters.own
  groups := fun _ hcs => nomatch hcs
  fixed := r.names_conditions

/-- Requests that are alike have selects that are alike, over windows of one kind. -/
theorem Alike.selectOf (h : r.Alike r') (columns : List String) {v w : Option TimeRange}
    (hv : ∀ range ∈ v, range.column = "start_time") (hw : ∀ range ∈ w, range.column = "start_time")
    (kind : v.map (fun range => range.window.kind) = w.map fun range => range.window.kind)
    (orderBy : List SortTerm) {page page' : Option Page} (hp : page.isSome = page'.isSome) :
    (r.selectOf columns v orderBy page).Alike (r'.selectOf columns w orderBy page') where
  columns := rfl
  table := rfl
  rows := Select.rowOutcomes_alike (fun v' hv' w' hw' => (hv v' hv').trans (hw w' hw').symm) kind
    (filterOutcomes_alike Spans.clean_columnFilters.own h.filters)
    (List.rel_append (idsConditions_alike "span_id" "spanIds" h.spanIds)
      (idsConditions_alike "trace_id" "traceIds" h.traceIds))
  groupBy := rfl
  groups := .nil
  orderBy := rfl
  page := hp

/-- The list of the second request follows that of the first. -/
theorem Alike.listQuery (h : r.Alike r') : Follows r.listQuery r'.listQuery := by
  rw [listQuery_eq, listQuery_eq, ← h.order]
  refine follows_over h.time fun v w hv hw kind => ?_
  exact (h.selectOf Spans.columns hv hw kind [r.order] h.page).build (r'.named_selectOf _ _ _ _)

theorem Alike.countQuery (h : r.Alike r') : Follows r.countQuery r'.countQuery := by
  rw [countQuery_eq, countQuery_eq]
  refine follows_over h.time fun v w hv hw kind => ?_
  exact (h.selectOf [countColumn] hv hw kind [] rfl).build (r'.named_selectOf _ _ _ _)

end SpansRequest

/-! ## Sessions -/

/-- The filters that a column of sessions is looked up in. -/
def Sessions.filtersOf (column : String) : ColumnFilters :=
  if Sessions.isAggregate column then Sessions.aggregateFilters else Sessions.columnFilters

/-- Two requests for sessions that differ in values only. -/
structure SessionsRequest.Alike (r r' : SessionsRequest) : Prop where
  /-- The filters are alike, each for the columns that it is looked up in. -/
  filters : List.Forall₂ (fun f g => Filter.Alike (Sessions.filtersOf f.column) f g) r.filters
    r'.filters
  traceIds : r.traceIds.isEmpty = r'.traceIds.isEmpty
  time : r.time.Alike r'.time "start_time"
  order : r.order = r'.order
  page : r.page.page?.isSome = r'.page.page?.isSome

/-- Routing goes by the column, so lists that are alike are routed alike. -/
theorem filter_alike {R S : Filter → Filter → Prop} {p : Filter → Bool} {fs gs : List Filter}
    (h : List.Forall₂ R fs gs) (same : ∀ f g, R f g → p f = p g)
    (refined : ∀ f g, R f g → p f = true → S f g) : List.Forall₂ S (fs.filter p) (gs.filter p) := by
  induction h with
  | nil => exact .nil
  | @cons f g fs gs head _ ih =>
    by_cases hf : p f = true
    · have hg : p g = true := same f g head ▸ hf
      rw [List.filter_cons_of_pos hf, List.filter_cons_of_pos hg]
      exact .cons (refined f g head hf) ih
    · have hg : ¬p g = true := same f g head ▸ hf
      rw [List.filter_cons_of_neg hf, List.filter_cons_of_neg hg]
      exact ih

namespace SessionsRequest

variable {r r' : SessionsRequest}

/-- A select of sessions binds names of its own kinds. -/
theorem named_selectOf (r : SessionsRequest) (columns : List String) (window : Option TimeRange)
    (groupBy : List String) (orderBy : List SortTerm) (page : Option Page) :
    (r.selectOf columns window groupBy orderBy page).Named where
  rows := fun _ hcs => Option.some.inj hcs ▸ Sessions.clean_columnFilters.own
  groups := fun _ hcs => Option.some.inj hcs ▸ Sessions.clean_aggregateFilters.own
  fixed := r.names_conditions

/-- Filters on rows go together, and so do filters on groups. -/
theorem Alike.splitFilters (h : r.Alike r') :
    List.Forall₂ (Filter.Alike Sessions.columnFilters) (Sessions.splitFilters r.filters).1
        (Sessions.splitFilters r'.filters).1 ∧
      List.Forall₂ (Filter.Alike Sessions.aggregateFilters) (Sessions.splitFilters r.filters).2
        (Sessions.splitFilters r'.filters).2 := by
  refine ⟨filter_alike h.filters ?_ ?_, filter_alike h.filters ?_ ?_⟩
  · intro f g alike
    rw [alike.column]
  · intro f g alike row
    have : Sessions.isAggregate f.column = false := by simpa using row
    rw [Sessions.filtersOf, this] at alike
    exact alike
  · intro f g alike
    rw [alike.column]
  · intro f g alike group
    rw [Sessions.filtersOf, group] at alike
    exact alike

/-- Requests that are alike have selects that are alike, over windows of one kind. -/
theorem Alike.selectOf (h : r.Alike r') (columns : List String) {v w : Option TimeRange}
    (hv : ∀ range ∈ v, range.column = "start_time") (hw : ∀ range ∈ w, range.column = "start_time")
    (kind : v.map (fun range => range.window.kind) = w.map fun range => range.window.kind)
    (groupBy : List String) (orderBy : List SortTerm) {page page' : Option Page}
    (hp : page.isSome = page'.isSome) :
    (r.selectOf columns v groupBy orderBy page).Alike
      (r'.selectOf columns w groupBy orderBy page') where
  columns := rfl
  table := rfl
  rows := Select.rowOutcomes_alike (fun v' hv' w' hw' => (hv v' hv').trans (hw w' hw').symm) kind
    (filterOutcomes_alike Sessions.clean_columnFilters.own h.splitFilters.1)
    (.cons ⟨rfl, rfl⟩ (idsConditions_alike "id" "traceIds" h.traceIds))
  groupBy := rfl
  groups := filterOutcomes_alike Sessions.clean_aggregateFilters.own h.splitFilters.2
  orderBy := rfl
  page := hp

/-- The list of the second request follows that of the first. -/
theorem Alike.listQuery (h : r.Alike r') : Follows r.listQuery r'.listQuery := by
  rw [listQuery_eq, listQuery_eq, ← h.order]
  refine follows_over h.time fun v w hv hw kind => ?_
  exact (h.selectOf Sessions.columns hv hw kind ["session_id"] [r.order] h.page).build
    (r'.named_selectOf _ _ _ _ _)

/-- The count of the second follows that of the first, since both have filters on groups or neither has. -/
theorem Alike.countQuery (h : r.Alike r') : Follows r.countQuery r'.countQuery := by
  rw [countQuery_eq, countQuery_eq]
  refine follows_over h.time fun v w hv hw kind => ?_
  have empty {R : Filter → Filter → Prop} {fs gs : List Filter} (alike : List.Forall₂ R fs gs) :
      fs.isEmpty = gs.isEmpty := by
    cases alike with
    | nil => rfl
    | cons _ _ => rfl
  have sameRoute := empty h.splitFilters.2
  rw [countOf, countOf, ← sameRoute]
  split
  · exact (h.selectOf [aliased "COUNT(DISTINCT session_id)" "count"] hv hw kind [] [] rfl).build
      (r'.named_selectOf _ _ _ _ _)
  · intro q hq
    obtain ⟨inner, hi, checked⟩ := bind_eq_ok hq
    obtain ⟨inner', hi', text, names⟩ :=
      (h.selectOf ["session_id"] hv hw kind ["session_id"] [] rfl).build
        (r'.named_selectOf _ _ _ _ _) inner hi
    rw [hi']
    show ∃ q', Query.check (countRowsOf inner'.text) inner'.parameters = .ok q' ∧ _
    rw [text]
    exact Query.check_alike checked names

end SessionsRequest

/-! ## Evaluations -/

/-- Every term that the statement of a run is ordered by: that of the run itself, and of two joined runs
    also that of the joined statement. -/
def EvalOptions.orderTerms (o : EvalOptions) : List SortTerm :=
  ⟨o.order.1.sql, o.order.2⟩ ::
    o.targetId.toList.map fun _ => ⟨Evaluation.primaryName o.order.1.id, o.order.2⟩

/-- Two requests for the datapoints of a run that differ in values only.  The columns are the same and
    may be any. -/
structure EvalOptions.Alike (o o' : EvalOptions) : Prop where
  /-- The columns are the same. -/
  columns : o.columns = o'.columns
  filters : List.Forall₂ (Filter.Alike (Evaluation.columnFilters o.allColumns)) o.filters o'.filters
  traceIds : o.traceIds.isEmpty = o'.traceIds.isEmpty
  /-- The terms of the order are the same, with the ids that the joined statement shows. -/
  order : o.orderTerms = o'.orderTerms
  page : o.page.isSome = o'.page.isSome
  /-- Both have a target run or neither has. -/
  target : o.targetId.isSome = o'.targetId.isSome

namespace EvalOptions

open Evaluation

variable {o o' : EvalOptions}

/-- A select of an evaluation binds names of its own kinds, whatever its columns are. -/
theorem named_selectOf (o : EvalOptions) (projection : List String) (orderBy : List SortTerm)
    (page : Option Page) : (o.selectOf projection orderBy page).Named where
  rows := fun _ hcs => Option.some.inj hcs ▸ own_columnFilters o.allColumns
  groups := fun _ hcs => nomatch hcs
  fixed := o.fixed_selectOf

theorem Alike.allColumns (h : o.Alike o') : o.allColumns = o'.allColumns := by
  rw [EvalOptions.allColumns, EvalOptions.allColumns, h.columns]

/-- Requests that are alike have selects that are alike. -/
theorem Alike.selectOf (h : o.Alike o') (projection : List String) (orderBy : List SortTerm)
    {page page' : Option Page} (hp : page.isSome = page'.isSome) :
    (o.selectOf projection orderBy page).Alike (o'.selectOf projection orderBy page') where
  columns := rfl
  table := rfl
  rows := by
    refine Select.rowOutcomes_alike (fun _ hv => absurd hv (Option.not_mem_none _)) rfl ?_ ?_
    · have alike : List.Forall₂ FilterOutcome.Alike
          (filterOutcomes "filter" (some (columnFilters o.allColumns)) o.filters)
          (filterOutcomes "filter" (some (columnFilters o.allColumns)) o'.filters) :=
        filterOutcomes_alike (own_columnFilters o.allColumns) h.filters
      show List.Forall₂ _ _ (filterOutcomes "filter" (some (columnFilters o'.allColumns)) o'.filters)
      rw [← h.allColumns]
      exact alike
    · exact .cons ⟨rfl, rfl⟩ (idsConditions_alike "dp.trace_id" "traceIds" h.traceIds)
  groupBy := rfl
  groups := .nil
  orderBy := rfl
  page := hp

/-- The statistics of the second run follow those of the first. -/
theorem Alike.statsQuery (h : o.Alike o') : Follows o.statsQuery o'.statsQuery := by
  have same (p : EvalOptions) : p.statsQuery = (p.selectOf (((p.allColumns.filter fun c =>
      c.id != indexId && c.isNumeric).map averageColumn) ++ [countColumn]) [] none).build := rfl
  rw [same, same, ← h.allColumns]
  exact (h.selectOf _ [] rfl).build (o'.named_selectOf _ _ _)

theorem Alike.countQuery (h : o.Alike o') : Follows o.countQuery o'.countQuery :=
  (h.selectOf [countColumn] [] rfl).build (o'.named_selectOf _ _ _)

/-- The selects of two target runs differ in the target only. -/
theorem comparedSelect_alike (target target' : String) (columns : List EvalColumn) :
    (comparedSelect target columns).Alike (comparedSelect target' columns) where
  columns := rfl
  table := rfl
  rows := .cons (.kept ⟨rfl, rfl⟩) .nil
  groupBy := rfl
  groups := .nil
  orderBy := rfl
  page := rfl

/-- The select of a target run binds a name of its own kind. -/
theorem named_comparedSelect (target : String) (columns : List EvalColumn) :
    (comparedSelect target columns).Named where
  rows := fun _ hcs => nomatch hcs
  groups := fun _ hcs => nomatch hcs
  fixed := by
    show ["targetId"].Sublist fixedNames
    decide

/-- Joining looks at the texts and the names of the two queries only, if no name is in both. -/
theorem comparison_alike {primary primary' compared compared' q : Query} {columns : List EvalColumn}
    (sort sort' : EvalSort) (hp : primary'.text = primary.text)
    (hpn : primary'.parameters.names = primary.parameters.names)
    (hc : compared'.text = compared.text)
    (hcn : compared'.parameters.names = compared.parameters.names)
    (apart : ∀ n ∈ compared'.parameters.names, n ∉ primary'.parameters.names)
    (term : primaryName sort.column = primaryName sort'.column)
    (direction : sort.direction = sort'.direction)
    (h : comparison primary compared columns sort = .ok q) :
    ∃ q', comparison primary' compared' columns sort' = .ok q' ∧ q'.text = q.text ∧
      q'.parameters.names = q.parameters.names := by
  obtain ⟨params, bound, checked⟩ := bind_eq_ok h
  obtain ⟨params', bound'⟩ : ∃ params,
      primary'.parameters.bindAll compared'.parameters.entries = .ok params :=
    Parameters.bindAll_of_fresh apart compared'.parameters.names_nodup
  have text : joinedText primary'.text compared'.text columns sort'
      = joinedText primary.text compared.text columns sort := by
    unfold joinedText
    rw [hp, hc, term, direction]
  have same : params'.names = params.names := by
    refine eq_of_ascending params'.names_ascending params.names_ascending ?_
    intro n
    rw [Parameters.mem_names_of_bindAll bound', Parameters.mem_names_of_bindAll bound, hpn]
    show _ ∨ n ∈ compared'.parameters.names ↔ _ ∨ n ∈ compared.parameters.names
    rw [hcn]
  show ∃ q', (primary'.parameters.bindAll compared'.parameters.entries).bind _ = .ok q' ∧ _
  rw [bound']
  show ∃ q', Query.check (joinedText primary'.text compared'.text columns sort') params' = .ok q' ∧ _
  rw [text]
  exact Query.check_alike checked same

/-- The run of the second follows that of the first, with a target run or without. -/
theorem Alike.runQuery (h : o.Alike o') : Follows o.runQuery o'.runQuery := by
  obtain ⟨inner, outer⟩ := List.cons.inj h.order
  have first := (h.selectOf (o.allColumns.map EvalColumn.projection) [⟨o.order.1.sql, o.order.2⟩]
    h.page).build (o'.named_selectOf _ _ _)
  intro q hq
  rw [runQuery_eq] at hq ⊢
  obtain ⟨primary, hp, rest⟩ := bind_eq_ok hq
  obtain ⟨primary', hp', text, names⟩ := first primary hp
  rw [← h.allColumns, ← inner, hp']
  show ∃ q', o'.joinTarget primary' = .ok q' ∧ _
  rcases none_or_some h.target with ⟨ht, ht'⟩ | ⟨targetId, targetId', ht, ht'⟩
  · rw [o.joinTarget_of_none ht] at rest
    rw [o'.joinTarget_of_none ht', ← Except.ok.inj rest]
    exact ⟨primary', rfl, text, names⟩
  · rw [o.joinTarget_of_some ht] at rest
    rw [o'.joinTarget_of_some ht', ← h.allColumns]
    obtain ⟨compared, hc, joined⟩ := bind_eq_ok rest
    obtain ⟨compared', hc', text', names'⟩ := (comparedSelect_alike targetId targetId'
      o.allColumns).build (named_comparedSelect targetId' _) compared hc
    have apart : ∀ n ∈ compared'.parameters.names, n ∉ primary'.parameters.names := by
      intro n hn hn'
      have only : n = "targetId" := List.mem_singleton.mp ((Select.mem_names_of_build hc').mp hn)
      exact targetId_not_bound (o'.named_selectOf _ _ _)
        (only ▸ (Select.mem_names_of_build hp').mp hn')
    -- the outer order shows the id of the sorting column, and the runs have that in common too
    rw [ht, ht'] at outer
    obtain ⟨term, direction⟩ := SortTerm.mk.inj (List.cons.inj outer).1
    rw [hc']
    exact comparison_alike ⟨o.order.1.id, o.order.2⟩ ⟨o'.order.1.id, o'.order.2⟩ text names text'
      names' apart term direction joined

end EvalOptions

/-! ## Requests -/

/-- No value of a request gets into the text of its query: two requests that differ in values only
    have, for each of the builders, queries of the same text and with the same names. -/
theorem values_not_in_text :
    (∀ r r' : SpansRequest, r.Alike r' →
      Follows r.listQuery r'.listQuery ∧ Follows r.countQuery r'.countQuery) ∧
    (∀ r r' : SessionsRequest, r.Alike r' →
      Follows r.listQuery r'.listQuery ∧ Follows r.countQuery r'.countQuery) ∧
    (∀ o o' : EvalOptions, o.Alike o' → Follows o.runQuery o'.runQuery ∧
      Follows o.statsQuery o'.statsQuery ∧ Follows o.countQuery o'.countQuery) := by
  refine ⟨?_, ?_, ?_⟩
  · exact fun r r' h => ⟨h.listQuery, h.countQuery⟩
  · exact fun r r' h => ⟨h.listQuery, h.countQuery⟩
  · exact fun o o' h => ⟨h.runQuery, h.statsQuery, h.countQuery⟩

/-- Filters on one column that are both kept are alike, unless they ask for a status. -/
theorem Filter.alike_of_kept {columns : ColumnFilters} {column : String} {op : Operator}
    {v w : FilterValue} (hv : ∀ key, ∃ c, columns.build ⟨column, op, v⟩ key = .ok (some c))
    (hw : ∀ key, ∃ c, columns.build ⟨column, op, w⟩ key = .ok (some c))
    (outcome : v.statusAlias? = w.statusAlias?) :
    Filter.Alike columns ⟨column, op, v⟩ ⟨column, op, w⟩ where
  column := rfl
  operator := rfl
  dropped := by
    intro key
    obtain ⟨c, hc⟩ := hv key
    obtain ⟨d, hd⟩ := hw key
    rw [hc, hd]
    exact ⟨fun h => absurd (Except.ok.inj h) (Option.some_ne_none c),
      fun h => absurd (Except.ok.inj h) (Option.some_ne_none d)⟩
  outcome := fun _ _ => outcome

/-- Each view with two requests: harmless values, and values that would close a quote. -/
theorem quotes_not_in_text :
    Follows
      (SpansRequest.listQuery
        ⟨[], ["t"], [⟨"name", .eq, .text "a"⟩], ⟨some "24", none, none⟩, none, none, .none⟩)
      (SpansRequest.listQuery
        ⟨[], ["'"], [⟨"name", .eq, .text "' OR 1"⟩], ⟨some "5", none, none⟩, none, none, .none⟩) ∧
    Follows
      (SessionsRequest.countQuery
        ⟨[⟨"session_id", .eq, .text "a"⟩], ["t"], ⟨some "24", none, none⟩, none, none, .none⟩)
      (SessionsRequest.countQuery
        ⟨[⟨"session_id", .eq, .text "' OR 1"⟩], ["'"], ⟨some "5", none, none⟩, none, none, .none⟩) ∧
    Follows
      (EvalOptions.runQuery
        ⟨"e", some "t", Evaluation.standardColumns [], [⟨"target", .eq, .text "a"⟩], [], none, none⟩)
      (EvalOptions.runQuery
        ⟨"'", some "'", Evaluation.standardColumns [], [⟨"target", .eq, .text "' OR 1"⟩], [], none,
          none⟩) := by
  have time : (⟨some "24", none, none⟩ : TimeInput).Alike ⟨some "5", none, none⟩ "start_time" :=
    ⟨some ⟨"start_time", .pastHours 24⟩, some ⟨"start_time", .pastHours 5⟩, by rfl, by rfl, rfl⟩
  obtain ⟨spans, sessions, runs⟩ := values_not_in_text
  refine ⟨(spans _ _ ?_).1, (sessions _ _ ?_).2, (runs _ _ ?_).1⟩
  · have name : Filter.Alike Spans.columnFilters ⟨"name", .eq, .text "a"⟩
        ⟨"name", .eq, .text "' OR 1"⟩ :=
      Filter.alike_of_kept (fun _ => ⟨_, rfl⟩) (fun _ => ⟨_, rfl⟩) (by decide)
    exact ⟨.cons name .nil, rfl, rfl, time, rfl, rfl⟩
  · have id : Filter.Alike (Sessions.filtersOf "session_id") ⟨"session_id", .eq, .text "a"⟩
        ⟨"session_id", .eq, .text "' OR 1"⟩ :=
      Filter.alike_of_kept (fun _ => ⟨_, rfl⟩) (fun _ => ⟨_, rfl⟩) (by decide)
    exact ⟨.cons id .nil, rfl, time, rfl, rfl⟩
  · have target : Filter.Alike (Evaluation.columnFilters (Evaluation.standardColumns []))
        ⟨"target", .eq, .text "a"⟩ ⟨"target", .eq, .text "' OR 1"⟩ :=
      Filter.alike_of_kept (fun _ => ⟨_, rfl⟩) (fun _ => ⟨_, rfl⟩) (by decide)
    exact ⟨rfl, .cons target .nil, rfl, rfl, rfl, rfl⟩

end TraceQuery
