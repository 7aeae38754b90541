/-
  Every query that is built is well typed.

  The columns of the three views are filtered as text, numbers, ids or arrays of text, whatever a request
  calls its scores; a window is given in hours or as two dates, and a page in counts.

  1. **Tables** (`Spans.typed_columnFilters`, `Sessions.typed_columnFilters`,
     `Evaluation.scalar_standardColumns`): a column of a view that is filtered as an array has elements
     that are single values.
  2. **Selects** (`SpansRequest.typed_selectOf`, `SessionsRequest.typed_selectOf`,
     `EvalOptions.typed_selectOf`): so the selects of a view are typed, and what stands around them adds no
     placeholder.
  3. **Texts** (`buildQuery_wellTyped`): with that every query built of a text of a request has a value of
     the right type for each of its placeholders.
-/
import TraceQuery.Proofs.Select.Typing
import TraceQuery.Proofs.View.Closed

namespace TraceQuery

open TraceQuery.Sql

/-! ## Spans -/

/-- The filters on spans bind values of the types that they write. -/
theorem Spans.typed_columnFilters : Spans.columnFilters.All ColumnFilter.Typed := by
  have scalar : Spans.columnFilters.All ColumnFilter.Scalar :=
    ColumnFilters.all_ofList (by decide +kernel)
  exact fun e he => ⟨Spans.clean_columnFilters.silent e he, scalar e he⟩

namespace SpansRequest

variable {r : SpansRequest}

/-- A select over spans is typed, over any window that was read from the request. -/
theorem typed_selectOf {columns : List String} (hc : ∀ t ∈ columns, Plain t)
    {window : Option TimeRange} (hw : r.time.resolve "start_time" = .ok window)
    {orderBy : List SortTerm} (ho : ∀ t ∈ orderBy, Plain t.expression) (page : Option Page) :
    (r.selectOf columns window orderBy page).Typed where
  agreeing := r.agreeing_selectOf hc (TimeInput.onColumn_of_resolve hw) ho page
  window := TimeInput.bounded_of_resolve hw
  rows := fun _ hcs => Option.some.inj hcs ▸ Spans.typed_columnFilters
  groups := fun _ hcs => nomatch hcs
  conditions := r.filled_conditions

theorem filledBy_listQuery {q : Query} (h : r.listQuery = .ok q) : ∃ slots, q.FilledBy slots := by
  rw [listQuery_eq] at h
  obtain ⟨window, hw, built⟩ := bind_eq_ok h
  exact (typed_selectOf Spans.plain_columns hw r.plain_order _).filledBy built

theorem filledBy_countQuery {q : Query} (h : r.countQuery = .ok q) : ∃ slots, q.FilledBy slots := by
  rw [countQuery_eq] at h
  obtain ⟨window, hw, built⟩ := bind_eq_ok h
  exact (typed_selectOf plain_countColumn hw plain_unordered none).filledBy built

end SpansRequest

/-! ## Sessions -/

/-- The filters on rows of sessions bind values of the types that they write. -/
theorem Sessions.typed_columnFilters : Sessions.columnFilters.All ColumnFilter.Typed := by
  have scalar : Sessions.columnFilters.All ColumnFilter.Scalar :=
    ColumnFilters.all_ofList (by decide +kernel)
  exact fun e he => ⟨Sessions.clean_columnFilters.silent e he, scalar e he⟩

theorem Sessions.typed_aggregateFilters : Sessions.aggregateFilters.All ColumnFilter.Typed := by
  have scalar : Sessions.aggregateFilters.All ColumnFilter.Scalar :=
    ColumnFilters.all_ofList (by decide +kernel)
  exact fun e he => ⟨Sessions.clean_aggregateFilters.silent e he, scalar e he⟩

namespace SessionsRequest

variable {r : SessionsRequest}

/-- A select over sessions is typed, over any window that was read from the request. -/
theorem typed_selectOf {columns : List String} (hc : ∀ t ∈ columns, Plain t)
    {window : Option TimeRange} (hw : r.time.resolve "start_time" = .ok window)
    {groupBy : List String} (hg : ∀ t ∈ groupBy, Plain t)
    {orderBy : List SortTerm} (ho : ∀ t ∈ orderBy, Plain t.expression) (page : Option Page) :
    (r.selectOf columns window groupBy orderBy page).Typed where
  agreeing := r.agreeing_selectOf hc (TimeInput.onColumn_of_resolve hw) hg ho page
  window := TimeInput.bounded_of_resolve hw
  rows := fun _ hcs => Option.some.inj hcs ▸ Sessions.typed_columnFilters
  groups := fun _ hcs => Option.some.inj hcs ▸ Sessions.typed_aggregateFilters
  conditions := r.filled_conditions

theorem filledBy_listQuery {q : Query} (h : r.listQuery = .ok q) : ∃ slots, q.FilledBy slots := by
  rw [listQuery_eq] at h
  obtain ⟨window, hw, built⟩ := bind_eq_ok h
  exact (typed_selectOf Sessions.plain_columns hw plain_sessionIds r.plain_order _).filledBy built

theorem filledBy_countQuery {q : Query} (h : r.countQuery = .ok q) : ∃ slots, q.FilledBy slots := by
  rw [countQuery_eq] at h
  obtain ⟨window, hw, counted⟩ := bind_eq_ok h
  rw [countOf] at counted
  split at counted
  · exact (typed_selectOf plain_distinctColumn hw plain_ungrouped plain_unordered none).filledBy counted
  · obtain ⟨inner, built, checked⟩ := bind_eq_ok counted
    obtain ⟨slots, filled⟩ := (typed_selectOf plain_sessionIds hw plain_sessionIds plain_unordered
      none).filledBy built
    rw [Query.check_eq_ok checked]
    exact ⟨slots, filled.around (reads_countRowsOf filled.reads.balanced) rfl⟩

end SessionsRequest

/-! ## Evaluations -/

namespace Evaluation

/-- The standard columns are no arrays. -/
theorem scalar_standardColumns (scores : List String) :
    ∀ c ∈ standardColumns scores, ∀ f ∈ c.filter?, f.Scalar := by
  have fixed : ∀ c ∈ standardColumns [], ∀ f ∈ c.filter?, f.Scalar := by decide +kernel
  intro c hc
  rcases List.mem_append.mp hc with hc | hc
  · exact fixed c (List.mem_append_left _ hc)
  · obtain ⟨name, _, rfl⟩ := List.mem_map.mp hc
    intro f hf
    rw [← Option.some.inj hf]
    trivial

/-- Columns that refer to nothing and are no arrays have filters that are typed. -/
theorem typed_columnFilters {columns : List EvalColumn} (silent : ∀ c ∈ columns, c.Silent)
    (scalar : ∀ c ∈ columns, ∀ f ∈ c.filter?, f.Scalar) :
    (columnFilters columns).All ColumnFilter.Typed := by
  have scalar : (columnFilters columns).All ColumnFilter.Scalar := by
    refine ColumnFilters.all_ofList ?_
    intro e he
    obtain ⟨c, hc, he⟩ := List.mem_filterMap.mp he
    obtain ⟨f, hf, rfl⟩ := Option.map_eq_some_iff.mp he
    exact scalar c hc f hf
  exact fun e he => ⟨silent_columnFilters silent e he, scalar e he⟩

/-- The select of a target run is typed: the target is the one value in it. -/
theorem typed_comparedSelect (target : String) {columns : List EvalColumn}
    (h : ∀ c ∈ columns, c.Silent) : (comparedSelect target columns).Typed where
  agreeing := agreeing_comparedSelect target h
  window := fun _ hr => nomatch hr
  rows := fun _ hcs => nomatch hcs
  groups := fun _ hcs => nomatch hcs
  conditions := filled_comparedSelect target columns

end Evaluation

namespace EvalOptions

open Evaluation

variable {o : EvalOptions}

/-- A select of a run is typed, whatever it shows. -/
theorem typed_selectOf {projection : List String} {orderBy : List SortTerm} {page : Option Page}
    (h : (o.selectOf projection orderBy page).Agreeing) (silent : ∀ c ∈ o.columns, c.Silent)
    (scalar : ∀ c ∈ o.columns, ∀ f ∈ c.filter?, f.Scalar) :
    (o.selectOf projection orderBy page).Typed where
  agreeing := h
  window := fun _ hr => nomatch hr
  rows := fun _ hcs => Option.some.inj hcs ▸ typed_columnFilters (silent_allColumns silent)
    (withIndex_all (P := fun c => ∀ f ∈ c.filter?, f.Scalar) (by decide) scalar)
  groups := fun _ hcs => nomatch hcs
  conditions := o.filled_conditions

/-- Two runs put their slots together. -/
theorem filledBy_runQuery (silent : ∀ c ∈ o.columns, c.Silent)
    (scalar : ∀ c ∈ o.columns, ∀ f ∈ c.filter?, f.Scalar) {q : Query} (h : o.runQuery = .ok q) :
    ∃ slots, q.FilledBy slots := by
  rw [runQuery_eq] at h
  obtain ⟨primary, built, joined⟩ := bind_eq_ok h
  obtain ⟨slots, filled⟩ := (typed_selectOf (agreeing_primary silent) silent scalar).filledBy built
  cases ht : o.targetId with
  | none =>
    rw [o.joinTarget_of_none ht] at joined
    exact Except.ok.inj joined ▸ ⟨slots, filled⟩
  | some target =>
    rw [o.joinTarget_of_some ht] at joined
    obtain ⟨compared, built', joined⟩ := bind_eq_ok joined
    obtain ⟨more, filled'⟩ :=
      (typed_comparedSelect target (silent_allColumns silent)).filledBy built'
    obtain ⟨params, bound, checked⟩ := bind_eq_ok joined
    -- the joining adds no slot, and the slots of the two runs have different names
    have reads := reads_joinedText filled.reads.balanced filled'.reads.balanced o.allColumns
      ⟨o.order.1.id, o.order.2⟩
    rw [Query.check_eq_ok checked]
    exact ⟨slots ++ more, filled.join filled' (apart_compared silent built built') reads bound⟩

/-- A query over the whole run, its statistics or its count, has a value for each of its slots. -/
theorem filledBy_whole (silent : ∀ c ∈ o.columns, c.Silent)
    (scalar : ∀ c ∈ o.columns, ∀ f ∈ c.filter?, f.Scalar) {projection : List String}
    (hp : ∀ t ∈ projection, Silent t) {q : Query} (h : (o.restricted projection).build = .ok q) :
    ∃ slots, q.FilledBy slots :=
  (typed_selectOf (agreeing_whole silent hp) silent scalar).filledBy h

end EvalOptions

/-! ## Requests -/

/-- A query of any kind has a value for each of its slots. -/
theorem Request.filledBy_query {kind : QueryKind} {r : Request} {q : Query}
    (h : r.query kind = .ok q) : ∃ slots, q.FilledBy slots := by
  cases r with
  | spans r =>
    rw [query] at h
    split at h
    · exact SpansRequest.filledBy_countQuery h
    · exact SpansRequest.filledBy_listQuery h
  | sessions r =>
    rw [query] at h
    split at h
    · exact SessionsRequest.filledBy_countQuery h
    · exact SessionsRequest.filledBy_listQuery h
  | eval r =>
    have silent := r.silent_columns
    have scalar := Evaluation.scalar_standardColumns r.scoreNames
    cases kind with
    | evalStats => exact EvalOptions.filledBy_whole silent scalar (EvalOptions.silent_averages silent) h
    | evalCount => exact EvalOptions.filledBy_whole silent scalar silent_countColumn h
    | _ => exact EvalOptions.filledBy_runQuery silent scalar h

/-- A text gives a query if it holds a request with no more filters than allowed, and the request gives
    the query when its paging is within limits. -/
theorem buildQuery_eq_ok_iff {limits : Limits} {kind : QueryKind} {text : String} {q : Query} :
    buildQuery limits kind text = .ok q ↔ ∃ r, Request.ofText kind text = .ok r ∧
      r.filters.length ≤ limits.maxFilters ∧ (r.clamp limits).query kind = .ok q := by
  have within (r : Request) : r.queryWithin limits kind = .ok q ↔
      r.filters.length ≤ limits.maxFilters ∧ (r.clamp limits).query kind = .ok q := by
    show (checkFilterCount limits.maxFilters r.filters).bind _ = _ ↔ _
    rw [checkFilterCount]
    split
    · rename_i tooMany
      exact ⟨fun h => (nomatch h), fun h => absurd h.1 (Nat.not_le.mpr tooMany)⟩
    · rename_i few
      exact ⟨fun h => ⟨Nat.not_lt.mp few, h⟩, fun h => h.2⟩
  rw [buildQuery]
  cases Request.ofText kind text with
  | error e => simp
  | ok r =>
    simp only [Except.ok.injEq, exists_eq_left', ← within]
    cases r.queryWithin limits kind with
    | error e => simp
    | ok q => simp

/-- Whatever the kind, the text of the request and the limits are: where a query is built, each of its
    placeholders has a value of the placeholder's type, no name has two types, and the limit, the offset
    and the hours of a look-back are not negative. -/
theorem buildQuery_wellTyped (limits : Limits) (kind : QueryKind) (text : String) (q : Query)
    (h : buildQuery limits kind text = .ok q) : q.WellTyped := by
  obtain ⟨r, _, _, answered⟩ := buildQuery_eq_ok_iff.mp h
  obtain ⟨slots, filled⟩ := Request.filledBy_query answered
  exact filled.wellTyped

/-- Two runs side by side, with a filter on a score and a limit. -/
theorem buildQuery_wellTyped_ofScores :
    ∃ q, buildQuery Limits.default .eval
        ("\x7b\"evaluationId\":\"e\",\"targetId\":\"t\",\"scoreNames\":[\"a`b\"],\"limit\":5," ++
          "\"filters\":[\x7b\"column\":\"score:a`b\",\"operator\":\"gt\",\"value\":\"1.5\"\x7d]\x7d")
        = .ok q ∧ q.WellTyped := by
  let r : EvalRequest :=
    { evaluationId := "e", targetId := some "t", scoreNames := ["a`b"]
      filters := [⟨"score:a`b", .gt, .text "1.5"⟩], traceIds := [], sortBy := none
      sortDirection := none, page := ⟨none, none, some 5, none⟩ }
  have expressible : ∀ e, .error e ∉ r.toOptions.primarySelect.outcomes :=
    Select.expressible_of_isOk (by decide +kernel)
  obtain ⟨q, ran, _⟩ := EvalOptions.runQuery_closed r.silent_columns expressible
  have clamped : (Request.eval r).clamp Limits.default = .eval r := rfl
  have answered : ((Request.eval r).clamp Limits.default).query .eval = .ok q := by
    rw [clamped]
    exact ran
  refine ⟨q, ?whole, buildQuery_wellTyped Limits.default .eval _ q ?whole⟩
  have parsed := Json.Document.ofText_of_tokens (show Json.tokensWithin _
      ("\x7b\"evaluationId\":\"e\",\"targetId\":\"t\",\"scoreNames\":[\"a`b\"],\"limit\":5," ++
        "\"filters\":[\x7b\"column\":\"score:a`b\",\"operator\":\"gt\",\"value\":\"1.5\"\x7d]\x7d").toList
      = [.openBrace, .scalar (.string "evaluationId"), .colon, .scalar (.string "e"), .comma,
        .scalar (.string "targetId"), .colon, .scalar (.string "t"), .comma,
        .scalar (.string "scoreNames"), .colon, .openBracket, .scalar (.string "a`b"), .closeBracket,
        .comma, .scalar (.string "limit"), .colon, .scalar (.number (.integer 5)), .comma,
        .scalar (.string "filters"), .colon, .openBracket, .openBrace,
        .scalar (.string "column"), .colon, .scalar (.string "score:a`b"), .comma,
        .scalar (.string "operator"), .colon, .scalar (.string "gt"), .comma,
        .scalar (.string "value"), .colon, .scalar (.string "1.5"),
        .closeBrace, .closeBracket, .closeBrace] by decide +kernel)
  refine buildQuery_eq_ok_iff.mpr ⟨.eval r, ?read, (by decide), answered⟩
  rw [Request.ofText, EvalRequest.ofText, parsed]
  rfl

end TraceQuery
