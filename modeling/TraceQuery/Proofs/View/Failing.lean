/-
  How the building of a query fails, once its request has been read.

  1. **Specification** (`Request.failure`): too many filters; or else the first date that is no
     timestamp, if both are given; or else the first filter on a known column whose family cannot
     express the operator, where those on groups come after those on rows.  It can be computed from the
     request without building anything, and no value of a filter has a part in it
     (`Request.failure_withFilters`).

  2. **Layers** — each query of a view is built over a window (`failsWith_over`) and fails there as its
     select does (`Select.Agreeing.failsWith`).  What is built around a select cannot fail: a count of
     rows, and the join of a target run.

  3. **Requests** (`Request.failsWith_queryWithin`, `buildQuery_failure`): the layers in their order.

  Mathlib-free.
-/
import TraceQuery.Proofs.Select.Failing
import TraceQuery.Proofs.View.Closed

namespace TraceQuery

open TraceQuery.Sql (Plain)
open TraceQuery.Evaluation (columnFilters standardColumns withIndex_standardColumns)

/-! ## Specification -/

/-- The first of two dates that is no timestamp. -/
def TimeInput.badDate (input : TimeInput) : Option String :=
  match input.startDate, input.endDate with
  | some start, some stop => [start, stop].find? fun text => (Time.Instant.read text).isNone
  | _, _ => .none

namespace Request

/-- The first date that is no timestamp; a request for an evaluation has none. -/
def badDate : Request → Option String
  | spans r => r.time.badDate
  | sessions r => r.time.badDate
  | eval _ => none

/-- The first filter on a known column whose family cannot express the operator. -/
def firstRefused : Request → Option Filter
  | spans r => r.filters.find? Spans.columnFilters.refuses
  | sessions r =>
    ((r.filters.filter fun f => !Sessions.isAggregate f.column).find?
        Sessions.columnFilters.refuses).or
      ((r.filters.filter fun f => Sessions.isAggregate f.column).find?
        Sessions.aggregateFilters.refuses)
  | eval r => r.filters.find? (columnFilters (standardColumns r.scoreNames)).refuses

/-- Why a request gives no query within limits, if it gives none. -/
def failure (limits : Limits) (r : Request) : Option QueryError :=
  if limits.maxFilters < r.filters.length then
    some (.tooManyFilters limits.maxFilters r.filters.length)
  else (r.badDate.map .invalidTimestamp).or (r.firstRefused.map Filter.unsupported)

/-- The request with other filters. -/
def withFilters (filters : List Filter) : Request → Request
  | spans r => spans { r with filters }
  | sessions r => sessions { r with filters }
  | eval r => eval { r with filters }

end Request

/-! ### Values have no part in it -/

/-- A filter without its value. -/
def Filter.shape (f : Filter) : String × Operator := (f.column, f.operator)

/-- Whether a table refuses a filter is told by the filter's shape. -/
theorem ColumnFilters.refuses_congr (cs : ColumnFilters) {f g : Filter} (h : f.shape = g.shape) :
    cs.refuses f = cs.refuses g := by
  obtain ⟨column, operator⟩ := Prod.mk.inj h
  rw [refuses, refuses, column, operator]

/-- A search that looks at shapes finds filters of one shape in two lists of the same shapes. -/
theorem find?_shape {p : Filter → Bool} (hp : ∀ f g : Filter, f.shape = g.shape → p f = p g)
    {fs gs : List Filter} (h : fs.map Filter.shape = gs.map Filter.shape) :
    (fs.find? p).map Filter.shape = (gs.find? p).map Filter.shape := by
  induction fs generalizing gs with
  | nil =>
    rw [List.map_eq_nil_iff.mp h.symm]
  | cons f fs ih =>
    obtain ⟨g, gs', rfl, same, rest⟩ := List.map_eq_cons_iff.mp h.symm
    rw [List.find?_cons, List.find?_cons, hp g f same]
    cases p f with
    | true => exact congrArg some same.symm
    | false => exact ih rest.symm

/-- What a choice by shapes keeps of two lists of the same shapes has the same shapes. -/
theorem filter_shape {p : Filter → Bool} (hp : ∀ f g : Filter, f.shape = g.shape → p f = p g)
    {fs gs : List Filter} (h : fs.map Filter.shape = gs.map Filter.shape) :
    (fs.filter p).map Filter.shape = (gs.filter p).map Filter.shape := by
  induction fs generalizing gs with
  | nil =>
    rw [List.map_eq_nil_iff.mp h.symm]
  | cons f fs ih =>
    obtain ⟨g, gs', rfl, same, rest⟩ := List.map_eq_cons_iff.mp h.symm
    rw [List.filter_cons, List.filter_cons, hp g f same]
    cases p f with
    | true =>
      show f.shape :: _ = g.shape :: _
      rw [same, ih rest.symm]
    | false => exact ih rest.symm

/-- The error of a filter is told by its shape. -/
theorem map_unsupported (f? : Option Filter) :
    f?.map Filter.unsupported
      = (f?.map Filter.shape).map fun s => QueryError.unsupportedOperator s.1 s.2 := by
  rw [Option.map_map]
  rfl

namespace Request

variable {fs gs : List Filter}

/-- Other values make another filter of the same shape the first one that is refused, or none. -/
theorem shape_firstRefused (r : Request) (h : fs.map Filter.shape = gs.map Filter.shape) :
    (r.withFilters fs).firstRefused.map Filter.shape
      = (r.withFilters gs).firstRefused.map Filter.shape := by
  have search (cs : ColumnFilters) {fs gs : List Filter}
      (h : fs.map Filter.shape = gs.map Filter.shape) :
      (fs.find? cs.refuses).map Filter.shape = (gs.find? cs.refuses).map Filter.shape :=
    find?_shape (fun f g => cs.refuses_congr) h
  have aggregate (f g : Filter) (h : f.shape = g.shape) :
      Sessions.isAggregate f.column = Sessions.isAggregate g.column :=
    congrArg (fun s => Sessions.isAggregate s.1) h
  cases r with
  | spans r => exact search _ h
  | sessions r =>
    -- each clause searches its own part of the filters, and the parts have the same shapes
    have rows := search Sessions.columnFilters
      (filter_shape (fun f g same => congrArg (! ·) (aggregate f g same)) h)
    have groups := search Sessions.aggregateFilters (filter_shape aggregate h)
    show (Option.or _ _).map Filter.shape = (Option.or _ _).map Filter.shape
    rw [Option.map_or, Option.map_or, rows, groups]
  | eval r => exact search _ h

/-- Filters on the same columns with the same operators fail alike, whatever their values are. -/
theorem failure_withFilters (limits : Limits) (r : Request)
    (h : fs.map Filter.shape = gs.map Filter.shape) :
    (r.withFilters fs).failure limits = (r.withFilters gs).failure limits := by
  have count (fs : List Filter) : (r.withFilters fs).filters = fs := by cases r <;> rfl
  have date (fs : List Filter) : (r.withFilters fs).badDate = r.badDate := by cases r <;> rfl
  have length : fs.length = gs.length := by simpa using congrArg List.length h
  rw [failure, failure, count, count, date, date, length, map_unsupported, map_unsupported,
    shape_firstRefused r h]

theorem withFilters_self (r : Request) : r.withFilters r.filters = r := by cases r <;> rfl

end Request

/-! ## Layers -/

/-- A window fails with the first date that is no timestamp. -/
theorem TimeInput.failsWith_resolve (input : TimeInput) (column : String) :
    FailsWith (input.badDate.map .invalidTimestamp) (input.resolve column) := by
  have reads {text : String} : FailsWith
      (if (Time.Instant.read text).isNone then some (.invalidTimestamp text) else .none)
      (readTimestamp text) := by
    rw [readTimestamp]
    cases Time.Instant.read text with
    | none => exact rfl
    | some i => exact ⟨i, rfl⟩
  obtain ⟨hours, start?, stop?⟩ := input
  -- only two dates are read; with one of them or none nothing can fail
  cases start? with
  | none => exact ⟨_, rfl⟩
  | some start =>
    cases stop? with
    | none => exact ⟨_, rfl⟩
    | some stop =>
      have window := reads.bind (x := readTimestamp start) fun i _ =>
        reads.bind_good (x := readTimestamp stop) fun j _ =>
          ⟨some (⟨column, .between i j⟩ : TimeRange), rfl⟩
      have dates : (badDate ⟨hours, some start, some stop⟩).map QueryError.invalidTimestamp
          = (if (Time.Instant.read start).isNone then some (.invalidTimestamp start) else .none).or
            (if (Time.Instant.read stop).isNone then some (.invalidTimestamp stop) else .none) := by
        show ([start, stop].find? fun text => (Time.Instant.read text).isNone).map _ = _
        rw [List.find?_cons, List.find?_cons]
        cases (Time.Instant.read start).isNone <;> cases (Time.Instant.read stop).isNone <;> rfl
      rw [dates]
      exact window

/-- What is built over the window of a request fails with a date first. -/
theorem failsWith_over (input : TimeInput) {column : String}
    {next : Option TimeRange → Except QueryError Query} {failure : Option QueryError}
    (h : ∀ window, (∀ range ∈ window, range.column = column) → FailsWith failure (next window)) :
    FailsWith ((input.badDate.map .invalidTimestamp).or failure) ((input.resolve column).bind next) :=
  (input.failsWith_resolve column).bind fun window resolved =>
    h window (TimeInput.onColumn_of_resolve resolved)

namespace SpansRequest

variable (r : SpansRequest)

/-- The filter that a select over spans refuses first is that of its request: there are no groups. -/
theorem firstRefused_selectOf (columns : List String) (window : Option TimeRange)
    (orderBy : List SortTerm) (page : Option Page) :
    (r.selectOf columns window orderBy page).firstRefused = (Request.spans r).firstRefused :=
  Option.or_none

/-- A list of spans fails with a date first, and then with a filter. -/
theorem failsWith_listQuery : FailsWith ((r.time.badDate.map .invalidTimestamp).or
    ((Request.spans r).firstRefused.map Filter.unsupported)) r.listQuery := by
  rw [listQuery_eq]
  refine failsWith_over r.time fun window hw => ?_
  have select := (r.agreeing_selectOf Spans.plain_columns hw r.plain_order r.page.page?).failsWith
  rw [firstRefused_selectOf] at select
  exact select

theorem failsWith_countQuery : FailsWith ((r.time.badDate.map .invalidTimestamp).or
    ((Request.spans r).firstRefused.map Filter.unsupported)) r.countQuery := by
  rw [countQuery_eq]
  refine failsWith_over r.time fun window hw => ?_
  have select := (r.agreeing_selectOf plain_countColumn hw plain_unordered none).failsWith
  rw [firstRefused_selectOf] at select
  exact select

end SpansRequest

namespace SessionsRequest

variable (r : SessionsRequest)

/-- A list of sessions fails with a date first, then with a filter on rows, then with one on groups. -/
theorem failsWith_listQuery : FailsWith ((r.time.badDate.map .invalidTimestamp).or
    ((Request.sessions r).firstRefused.map Filter.unsupported)) r.listQuery := by
  rw [listQuery_eq]
  refine failsWith_over r.time fun window hw => ?_
  exact (r.agreeing_selectOf Sessions.plain_columns hw plain_sessionIds r.plain_order
    r.page.page?).failsWith

/-- Counting the rows of a query cannot fail. -/
theorem failsWith_countOf {window : Option TimeRange}
    (hw : ∀ range ∈ window, range.column = "start_time") :
    FailsWith ((Request.sessions r).firstRefused.map Filter.unsupported) (r.countOf window) := by
  rw [countOf]
  split
  · exact (r.agreeing_selectOf plain_distinctColumn hw plain_ungrouped plain_unordered none).failsWith
  · have inner := r.agreeing_selectOf plain_sessionIds hw plain_sessionIds plain_unordered none
    exact inner.failsWith.bind_good fun q built => ⟨_, (inner.closed built).countRows.1⟩

theorem failsWith_countQuery : FailsWith ((r.time.badDate.map .invalidTimestamp).or
    ((Request.sessions r).firstRefused.map Filter.unsupported)) r.countQuery := by
  rw [countQuery_eq]
  exact failsWith_over r.time fun window hw => r.failsWith_countOf hw

end SessionsRequest

namespace EvalOptions

variable {o : EvalOptions}

/-- A run fails as its primary run does: joining the target run cannot fail. -/
theorem failsWith_runQuery (hc : ∀ c ∈ o.columns, c.Silent) :
    FailsWith (o.primarySelect.firstRefused.map Filter.unsupported) o.runQuery := by
  refine (agreeing_primary hc).failsWith.bind_good fun primary built => ?_
  obtain ⟨q, joined, _⟩ := joinTarget_closed hc built
  exact ⟨q, joined⟩

end EvalOptions

/-! ## Requests -/

namespace Request

/-- The columns of a request for an evaluation are those of every run. -/
theorem firstRefused_eval (r : EvalRequest) :
    (Request.eval r).firstRefused = r.toOptions.primarySelect.firstRefused := by
  have columns : r.toOptions.allColumns = standardColumns r.scoreNames :=
    withIndex_standardColumns r.scoreNames
  show _ = (r.filters.find? (columnFilters r.toOptions.allColumns).refuses).or none
  rw [columns, Option.or_none]
  rfl

/-- A query of any kind fails with a date first, and then with a filter. -/
theorem failsWith_query (kind : QueryKind) (r : Request) :
    FailsWith ((r.badDate.map .invalidTimestamp).or (r.firstRefused.map Filter.unsupported))
      (r.query kind) := by
  cases r with
  | spans r =>
    rw [query]
    split
    · exact r.failsWith_countQuery
    · exact r.failsWith_listQuery
  | sessions r =>
    rw [query]
    split
    · exact r.failsWith_countQuery
    · exact r.failsWith_listQuery
  | eval r =>
    have silent := r.silent_columns
    show FailsWith ((Request.eval r).firstRefused.map Filter.unsupported) _
    rw [firstRefused_eval]
    -- a run is joined to its target, the other two kinds are a select each
    cases kind with
    | evalStats =>
      exact (EvalOptions.agreeing_whole silent (EvalOptions.silent_averages silent)).failsWith
    | evalCount => exact (EvalOptions.agreeing_whole silent silent_countColumn).failsWith
    | _ => exact EvalOptions.failsWith_runQuery silent

/-- Filters are counted before anything else is looked at. -/
theorem failsWith_queryWithin (limits : Limits) (kind : QueryKind) (r : Request) :
    FailsWith (r.failure limits) (r.queryWithin limits kind) := by
  have clamped := failsWith_query kind (r.clamp limits)
  have date : (r.clamp limits).badDate = r.badDate := by cases r <;> rfl
  have refused : (r.clamp limits).firstRefused = r.firstRefused := by cases r <;> rfl
  rw [date, refused] at clamped
  show FailsWith _ ((checkFilterCount limits.maxFilters r.filters).bind _)
  rw [failure, checkFilterCount]
  split
  · exact rfl
  · exact clamped

/-- Only too many filters are reported as such. -/
theorem failure_eq_tooManyFilters_iff {limits : Limits} {r : Request} {max count : Nat} :
    r.failure limits = some (.tooManyFilters max count) ↔
      max = limits.maxFilters ∧ count = r.filters.length ∧ limits.maxFilters < r.filters.length := by
  rw [failure]
  split
  · rename_i tooMany
    simp [tooMany, eq_comm]
  · rename_i few
    have other : (r.badDate.map QueryError.invalidTimestamp).or (r.firstRefused.map Filter.unsupported)
        ≠ some (.tooManyFilters max count) := by
      cases r.badDate <;> cases r.firstRefused <;> simp [Filter.unsupported]
    exact iff_of_false other fun h => few h.2.2

end Request

/-- Once its text has been read, a request of any kind fails with its failure. -/
theorem failsWith_buildQuery (limits : Limits) {kind : QueryKind} {text : String} {r : Request}
    (read : Request.ofText kind text = .ok r) :
    FailsWith ((r.failure limits).map BuildError.query) (buildQuery limits kind text) := by
  have built : buildQuery limits kind text = (r.queryWithin limits kind).mapError .query := by
    simp only [buildQuery, read]
    cases r.queryWithin limits kind <;> rfl
  rw [built]
  exact (r.failsWith_queryWithin limits kind).mapError _

/-- A request that has been read fails with its failure, and gives a query if it has none.  Too many
    filters are told of exactly if there are.  A text with the same filters but for their values fails
    where this one does, and with the same error. -/
theorem buildQuery_failure (limits : Limits) (kind : QueryKind) (text : String) (r : Request)
    (read : Request.ofText kind text = .ok r) :
    (∀ e, buildQuery limits kind text = .error e ↔ (r.failure limits).map .query = some e) ∧
    ((∃ q, buildQuery limits kind text = .ok q) ↔ r.failure limits = none) ∧
    (∀ max count, buildQuery limits kind text = .error (.query (.tooManyFilters max count)) ↔
      max = limits.maxFilters ∧ count = r.filters.length ∧ limits.maxFilters < r.filters.length) ∧
    (∀ text' fs, Request.ofText kind text' = .ok (r.withFilters fs) →
      fs.map Filter.shape = r.filters.map Filter.shape →
      ∀ e, buildQuery limits kind text' = .error e ↔ buildQuery limits kind text = .error e) := by
  have built := failsWith_buildQuery limits read
  refine ⟨fun e => built.eq_error_iff, ?_, fun max count => ?_, fun text' fs read' same e => ?_⟩
  · rw [built.eq_ok_iff, Option.map_eq_none_iff]
  · rw [built.eq_error_iff, ← Request.failure_eq_tooManyFilters_iff]
    constructor
    · intro h
      obtain ⟨e, he, same⟩ := Option.map_eq_some_iff.mp h
      exact BuildError.query.inj same ▸ he
    · intro h
      rw [h]
      rfl
  · have alike := r.failure_withFilters limits same
    rw [r.withFilters_self] at alike
    rw [(failsWith_buildQuery limits read').eq_error_iff, built.eq_error_iff, alike]

/-- The filter on groups comes first in the request; the one on rows is told of. -/
theorem buildQuery_failure_ofRows :
    buildQuery Limits.default .sessions
        ("\x7b\"filters\":[\x7b\"column\":\"duration\",\"operator\":\"has\",\"value\":\"x\"\x7d," ++
          "\x7b\"column\":\"metadata\",\"operator\":\"gt\",\"value\":\"x\"\x7d]\x7d")
      = .error (.query (.unsupportedOperator "metadata" .gt)) := by
  let r : SessionsRequest :=
    { filters := [⟨"duration", .has, .text "x"⟩, ⟨"metadata", .gt, .text "x"⟩], traceIds := []
      time := .none, sortBy := none, sortDirection := none, page := .none }
  have failing : (Request.sessions r).failure Limits.default
      = some (.unsupportedOperator "metadata" .gt) := by decide +kernel
  have parsed := Json.Document.ofText_of_tokens (show Json.tokensWithin _
      ("\x7b\"filters\":[\x7b\"column\":\"duration\",\"operator\":\"has\",\"value\":\"x\"\x7d," ++
        "\x7b\"column\":\"metadata\",\"operator\":\"gt\",\"value\":\"x\"\x7d]\x7d").toList
      = [.openBrace, .scalar (.string "filters"), .colon, .openBracket,
        .openBrace, .scalar (.string "column"), .colon, .scalar (.string "duration"), .comma,
        .scalar (.string "operator"), .colon, .scalar (.string "has"), .comma,
        .scalar (.string "value"), .colon, .scalar (.string "x"), .closeBrace, .comma,
        .openBrace, .scalar (.string "column"), .colon, .scalar (.string "metadata"), .comma,
        .scalar (.string "operator"), .colon, .scalar (.string "gt"), .comma,
        .scalar (.string "value"), .colon, .scalar (.string "x"), .closeBrace,
        .closeBracket, .closeBrace] by decide +kernel)
  refine ((buildQuery_failure Limits.default .sessions _ (.sessions r) ?read).1 _).mpr ?_
  case read =>
    rw [Request.ofText, SessionsRequest.ofText, parsed]
    rfl
  rw [failing]
  rfl

end TraceQuery
