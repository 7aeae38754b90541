/-
  What the time selection of a request does to its queries.

  1. **The predicate** (`TimeWindow.predicate`): a window compares the start of a row with two bound times,
     or with the present less a bound number of hours.
  2. **A select with a window** (`Select.build_within`): the predicate stands first in WHERE and brings its
     parameters; everything else is as without a window, the first error included.
  3. **Requests** (`TimeInput.Governs`): a list or a count of spans or sessions fails with the date that is
     no timestamp, or has the predicate of the window, or is the query of the same request without a time
     selection.
  4. **The texts** (`TimeInput.selects_window`): which of these it is, told by the texts alone.
  5. **Times in order** (`bound_times_in_order`): what two dates are bound as is ordered as text as the dates
     are in time.
-/
import TraceQuery.Proofs.Select.Together
import TraceQuery.Proofs.Select.Window
import TraceQuery.Proofs.Time.Stamps
import TraceQuery.Proofs.View.Closed

namespace TraceQuery

open TraceQuery.Sql
open TraceQuery.Time (Instant Stamp Timestamp)

/-! ## The predicate -/

/-- The predicate of a window on the start of a row. -/
def TimeWindow.predicate : TimeWindow → Condition
  | .between start stop =>
    { text := "start_time >= \x7bstartTime:String\x7d AND start_time <= \x7bendTime:String\x7d"
      bindings := [("startTime", .string start.write), ("endTime", .string stop.write)] }
  | .pastHours hours =>
    { text := "start_time >= now() - INTERVAL \x7bpastHours:Int64\x7d HOUR"
      bindings := [("pastHours", .int hours)] }

/-- On `start_time` a window is the condition with its predicate. -/
theorem TimeRange.condition_of_start {range : TimeRange} (h : range.column = "start_time") :
    range.condition = range.window.predicate := by
  obtain ⟨column, window⟩ := range
  obtain rfl : column = "start_time" := h
  cases window with
  | between start stop => rfl
  | pastHours hours => rfl

/-- The names of the parameters of all windows. -/
def windowNames : List String := ["startTime", "endTime", "pastHours"]

/-! ## A select with a window -/

/-- A query with a window beside the one without; the statement of the latter stands inside a text. -/
structure Windowed (window : TimeWindow) (around : String → String) (statement : Statement)
    (bare bounded : Query) : Prop where
  textBare : bare.text = around statement.text
  textBounded : bounded.text
    = around { statement with conditions := window.predicate.text :: statement.conditions }.text
  parameters : ∀ b, b ∈ bounded.parameters.entries ↔
    b ∈ window.predicate.bindings ∨ b ∈ bare.parameters.entries
  timeless : ∀ n ∈ windowNames, n ∉ bare.parameters.names

namespace Select

variable {s : Select} {range : TimeRange}

/-- The select over a window. -/
def within (s : Select) (window : Option TimeRange) : Select := { s with timeRange := window }

/-- The condition of a window stands in front of all others, and its own can never fail. -/
theorem outcomes_within (s : Select) (range : TimeRange) :
    (s.within (some range)).outcomes = .ok (some range.condition) :: (s.within none).outcomes := rfl

theorem bindings_within (s : Select) (range : TimeRange) :
    (s.within (some range)).bindings = range.condition.bindings ++ (s.within none).bindings := by
  rw [bindings, outcomes_within]
  rfl

theorem statement_within (s : Select) (range : TimeRange) :
    (s.within (some range)).statement = { (s.within none).statement with
      conditions := range.condition.text :: (s.within none).statement.conditions } := rfl

/-- Without a window none of the names of windows is bound. -/
theorem timeless_of_named {t : Select} (h : t.Named) (unbounded : t.timeRange = none) {q : Query}
    (built : t.build = .ok q) : ∀ n ∈ windowNames, n ∉ q.parameters.names := by
  intro n window hn
  have bound : t.Binds n := (mem_names_iff_binds (of_build_eq_ok built).2.1).mp hn
  have reserved : n ∈ reservedNames := List.mem_append_left _ (List.mem_append_left _ window)
  have own := h.mem_ownBindings reserved bound
  rw [ownBindings, unbounded] at own
  have others : (namesOf t.conditions ++ namesOf (t.page.map Page.clause).toList).Sublist
      (fixedNames ++ Page.names) := by
    refine h.fixed.append ?_
    cases t.page with
    | none => exact List.nil_sublist _
    | some page => exact List.Sublist.refl _
  -- the other reserved names are fixed ones and those of the page
  have apart : ∀ n ∈ windowNames, n ∉ fixedNames ++ Page.names := by decide
  exact apart n window (others.subset own)

/-- A window adds its predicate and its parameters to a select, and no error. -/
theorem build_within (bare : (s.within none).Agreeing) (bounded : (s.within (some range)).Agreeing)
    (onStart : range.column = "start_time") :
    Together (Windowed range.window id (s.within none).statement) (s.within none).build
      (s.within (some range)).build := by
  have predicate := TimeRange.condition_of_start onStart
  -- the window cannot fail, so the first error is the same with it and without
  cases first : firstError (s.within none).outcomes with
  | some e =>
    have later : firstError (s.within (some range)).outcomes = some e := first
    rw [build_of_firstError first bare.named.nodup, build_of_firstError later bounded.named.nodup]
    exact .failed e
  | none =>
    have later : firstError (s.within (some range)).outcomes = none := first
    obtain ⟨q, built, -, -⟩ := bare.build_of_expressible (firstError_eq_none_iff.mp first)
    obtain ⟨q', built', -, -⟩ := bounded.build_of_expressible (firstError_eq_none_iff.mp later)
    rw [built, built']
    refine .good ⟨text_of_build built, ?_, ?_, timeless_of_named bare.named rfl built⟩
    · rw [text_of_build built', statement_within, predicate]
      rfl
    · intro b
      rw [bounded.named.mem_entries built', bare.named.mem_entries built, bindings_within, predicate,
        List.mem_append]

end Select

/-- The rows of a statement can be counted from outside with a window as without. -/
theorem Together.countRows {window : TimeWindow} {statement : Statement}
    {bare bounded : Except QueryError Query} (h : Together (Windowed window id statement) bare bounded)
    (closed : ∀ q, bare = .ok q → q.Closed) (closed' : ∀ q, bounded = .ok q → q.Closed) :
    Together (Windowed window SessionsRequest.countRowsOf statement)
      (bare.bind fun q => Query.check (SessionsRequest.countRowsOf q.text) q.parameters)
      (bounded.bind fun q => Query.check (SessionsRequest.countRowsOf q.text) q.parameters) := by
  cases h with
  | failed e => exact .failed e
  | good h =>
    show Together _ (Query.check _ _) (Query.check _ _)
    rw [(closed _ rfl).countRows.1, (closed' _ rfl).countRows.1]
    exact .good {
      textBare := congrArg SessionsRequest.countRowsOf h.textBare
      textBounded := congrArg SessionsRequest.countRowsOf h.textBounded
      parameters := h.parameters
      timeless := h.timeless }

/-! ## Requests -/

theorem onStart_none : ∀ range ∈ (none : Option TimeRange), range.column = "start_time" :=
  fun _ hr => absurd hr (Option.not_mem_none _)

theorem onStart_some {range : TimeRange} (onStart : range.column = "start_time") :
    ∀ range' ∈ some range, range'.column = "start_time" := fun _ hr => Option.some.inj hr ▸ onStart

/-- What the time selection of a request does to a query: `bare` is the query of the same request without
    one, and `statement` is the statement in it. -/
structure TimeInput.Governs (input : TimeInput) (around : String → String) (statement : Statement)
    (bare query : Except QueryError Query) : Prop where
  /-- without a selection no window is bound -/
  timeless : ∀ q, bare = .ok q → q.text = around statement.text ∧ ∀ n ∈ windowNames, n ∉ q.parameters.names
  /-- a date that is no timestamp is the error of the query -/
  failed : ∀ e, input.resolve "start_time" = .error e → query = .error e
  /-- a selection of nothing changes nothing -/
  unbounded : input.resolve "start_time" = .ok .none → query = bare
  /-- and a window adds what windows add -/
  bounded : ∀ range, input.resolve "start_time" = .ok (some range) →
    Together (Windowed range.window around statement) bare query

/-- It is enough to know what a window does to the answer. -/
theorem TimeInput.governs_of_bind (next : Option TimeRange → Except QueryError Query) {input : TimeInput}
    {around : String → String} {statement : Statement}
    (h : ∀ range : TimeRange, range.column = "start_time" →
      Together (Windowed range.window around statement) (next .none) (next (some range))) :
    input.Governs around statement (next .none) ((input.resolve "start_time").bind next) where
  timeless q bare := by
    -- any window tells what the query without one is like
    obtain ⟨_, _, windowed⟩ := (h ⟨"start_time", .pastHours 1⟩ rfl).of_ok bare
    exact ⟨windowed.textBare, windowed.timeless⟩
  failed e failed := by
    rw [failed]
    rfl
  unbounded unbounded := by
    rw [unbounded]
    rfl
  bounded range resolved := by
    rw [resolved]
    exact h range (TimeInput.onColumn_of_resolve resolved range rfl)

namespace SpansRequest

variable (r : SpansRequest)

/-- The request without a time selection. -/
def timeless : SpansRequest := { r with time := .none }

/-- The time selection governs a list of spans. -/
theorem governs_listQuery : r.time.Governs id
    (r.selectOf Spans.columns none [r.order] r.page.page?).statement r.timeless.listQuery r.listQuery := by
  rw [r.listQuery_eq, r.timeless.listQuery_eq]
  have agreeing {window : Option TimeRange} (hw : ∀ range ∈ window, range.column = "start_time") :=
    r.agreeing_selectOf Spans.plain_columns hw r.plain_order r.page.page?
  refine TimeInput.governs_of_bind
    (fun window => (r.selectOf Spans.columns window [r.order] r.page.page?).build) fun range onStart => ?_
  exact Select.build_within (s := r.selectOf Spans.columns none [r.order] r.page.page?)
    (agreeing onStart_none) (agreeing (onStart_some onStart)) onStart

theorem governs_countQuery : r.time.Governs id
    (r.selectOf [countColumn] none [] none).statement r.timeless.countQuery r.countQuery := by
  rw [r.countQuery_eq, r.timeless.countQuery_eq]
  have agreeing {window : Option TimeRange} (hw : ∀ range ∈ window, range.column = "start_time") :=
    r.agreeing_selectOf plain_countColumn hw plain_unordered none
  refine TimeInput.governs_of_bind
    (fun window => (r.selectOf [countColumn] window [] none).build) fun range onStart => ?_
  exact Select.build_within (s := r.selectOf [countColumn] none [] none)
    (agreeing onStart_none) (agreeing (onStart_some onStart)) onStart

end SpansRequest

namespace SessionsRequest

variable (r : SessionsRequest)

/-- The request without a time selection. -/
def timeless : SessionsRequest := { r with time := .none }

/-- The time selection governs a list of sessions. -/
theorem governs_listQuery : r.time.Governs id
    (r.selectOf Sessions.columns none ["session_id"] [r.order] r.page.page?).statement
    r.timeless.listQuery r.listQuery := by
  rw [r.listQuery_eq, r.timeless.listQuery_eq]
  have agreeing {window : Option TimeRange} (hw : ∀ range ∈ window, range.column = "start_time") :=
    r.agreeing_selectOf Sessions.plain_columns hw plain_sessionIds r.plain_order r.page.page?
  refine TimeInput.governs_of_bind
    (fun window => (r.selectOf Sessions.columns window ["session_id"] [r.order] r.page.page?).build)
    fun range onStart => ?_
  exact Select.build_within
    (s := r.selectOf Sessions.columns none ["session_id"] [r.order] r.page.page?)
    (agreeing onStart_none) (agreeing (onStart_some onStart)) onStart

/-- The text around the statement of a count. -/
def aroundCount : String → String :=
  if (Sessions.splitFilters r.filters).2.isEmpty then id else countRowsOf

/-- The statement of a count without a window. -/
def countStatement : Statement :=
  if (Sessions.splitFilters r.filters).2.isEmpty then
    (r.selectOf [aliased "COUNT(DISTINCT session_id)" "count"] none [] [] none).statement
  else (r.selectOf ["session_id"] none ["session_id"] [] none).statement

/-- The time selection governs a count of sessions, in either of its two forms. -/
theorem governs_countQuery :
    r.time.Governs r.aroundCount r.countStatement r.timeless.countQuery r.countQuery := by
  rw [r.countQuery_eq, r.timeless.countQuery_eq]
  refine TimeInput.governs_of_bind r.countOf fun range onStart => ?_
  rw [aroundCount, countStatement, countOf, countOf]
  split
  · have agreeing {window : Option TimeRange} (hw : ∀ range ∈ window, range.column = "start_time") :=
      r.agreeing_selectOf plain_distinctColumn hw plain_ungrouped plain_unordered none
    exact Select.build_within
      (s := r.selectOf [aliased "COUNT(DISTINCT session_id)" "count"] none [] [] none)
      (agreeing onStart_none) (agreeing (onStart_some onStart)) onStart
  · have agreeing {window : Option TimeRange} (hw : ∀ range ∈ window, range.column = "start_time") :=
      r.agreeing_selectOf plain_sessionIds hw plain_sessionIds plain_unordered none
    have inner := Select.build_within (s := r.selectOf ["session_id"] none ["session_id"] [] none)
      (agreeing onStart_none) (agreeing (onStart_some onStart)) onStart
    exact inner.countRows (fun q => (agreeing onStart_none).closed)
      fun q => (agreeing (onStart_some onStart)).closed

end SessionsRequest

/-! ## The texts -/

/-- **The texts of a request tell its window.**  Two dates are a window, and the first that is no timestamp
    is the error; without both dates there is a look-back if its text asks for one, and no window otherwise.
    The lists and counts of spans and sessions then have the predicate and the parameters of this window, or
    those of no window, or fail as the dates do. -/
theorem TimeInput.selects_window (input : TimeInput) :
    (∀ column a b : String, input.startDate = some a → input.endDate = some b →
      (∀ i j, Dated a i → Dated b j → input.resolve column = .ok (some ⟨column, .between i j⟩)) ∧
      ((¬ ∃ i, Dated a i) → input.resolve column = .error (.invalidTimestamp a)) ∧
      ((∃ i, Dated a i) → (¬ ∃ j, Dated b j) →
        input.resolve column = .error (.invalidTimestamp b))) ∧
    (∀ column : String, input.startDate = .none ∨ input.endDate = .none →
      (∀ hours, input.resolve column = .ok (some ⟨column, .pastHours hours⟩) ↔
        ∃ text, input.pastHours = some text ∧ LooksBack text hours) ∧
      ((¬ ∃ text hours, input.pastHours = some text ∧ LooksBack text hours) →
        input.resolve column = .ok .none)) ∧
    (∀ r : SpansRequest, r.time = input →
      input.Governs id (r.selectOf Spans.columns .none [r.order] r.page.page?).statement
        r.timeless.listQuery r.listQuery ∧
      input.Governs id (r.selectOf [countColumn] .none [] .none).statement
        r.timeless.countQuery r.countQuery) ∧
    (∀ r : SessionsRequest, r.time = input →
      input.Governs id
        (r.selectOf Sessions.columns .none ["session_id"] [r.order] r.page.page?).statement
        r.timeless.listQuery r.listQuery ∧
      input.Governs r.aroundCount r.countStatement r.timeless.countQuery r.countQuery) := by
  refine ⟨?_, ?_, ?_, ?_⟩
  · intro column a b start stop
    exact resolve_of_dates start stop
  · intro column missing
    exact resolve_of_missing missing
  · rintro r rfl
    exact ⟨r.governs_listQuery, r.governs_countQuery⟩
  · rintro r rfl
    exact ⟨r.governs_listQuery, r.governs_countQuery⟩

/-- A plus sign and leading zeros count for nothing, nor does a date on its own. -/
theorem TimeInput.selects_window_lookBack :
    (⟨some " +007\t", some "2024-01-01T00:00:00Z", .none⟩ : TimeInput).resolve "start_time"
      = .ok (some ⟨"start_time", .pastHours 7⟩) := by
  have back : LooksBack " +007\t" 7 := by
    refine ⟨[' '], ['\t'], ⟨.plus, "007".toList, by decide, List.all_eq_true.mp (by decide)⟩,
      ?_, ?_, ?_, ?_, ?_⟩
    · exact List.all_eq_true.mp (by decide)
    · decide
    · decide
    · decide
    · decide
  have selected := selects_window ⟨some " +007\t", some "2024-01-01T00:00:00Z", .none⟩
  exact ((selected.2.1 "start_time" (.inr rfl)).1 7).mpr ⟨_, rfl, back⟩

/-! ## Times in order -/

/-- The parameters of a window of two dates. -/
def Query.BindsTimes (q : Query) (start stop : String) : Prop :=
  q.parameters.find? "startTime" = some (.string start) ∧ q.parameters.find? "endTime" = some (.string stop)

/-- A query with a window of two dates binds both. -/
theorem Windowed.bindsTimes {i j : Instant} {around : String → String} {statement : Statement}
    {bare bounded : Query} (h : Windowed (.between i j) around statement bare bounded) :
    bounded.BindsTimes i.write j.write := by
  constructor
  · exact Parameters.find?_eq_some_iff.mpr ((h.parameters _).mpr (.inl List.mem_cons_self))
  · exact Parameters.find?_eq_some_iff.mpr
      ((h.parameters _).mpr (.inl (List.mem_cons_of_mem _ List.mem_cons_self)))

namespace TimeInput

variable {input : TimeInput} {around : String → String} {statement : Statement}
  {bare query : Except QueryError Query} {a b : String} {i j : Instant}

theorem Governs.bindsTimes (h : input.Governs around statement bare query)
    (resolved : input.resolve "start_time" = .ok (some ⟨"start_time", .between i j⟩)) {q : Query}
    (built : query = .ok q) : q.BindsTimes i.write j.write := by
  obtain ⟨_, _, windowed⟩ := (h.bounded _ resolved).of_ok_right built
  exact windowed.bindsTimes

end TimeInput

/-- The queries of spans and sessions with a window of two dates bind these two times. -/
def BoundFor (input : TimeInput) (start stop : String) : Prop :=
  (∀ column, ∃ range, input.resolve column = .ok (some range) ∧
    range.condition.bindings = [("startTime", .string start), ("endTime", .string stop)]) ∧
  (∀ r : SpansRequest, r.time = input → ∀ q, r.listQuery = .ok q ∨ r.countQuery = .ok q →
    q.BindsTimes start stop) ∧
  (∀ r : SessionsRequest, r.time = input → ∀ q, r.listQuery = .ok q ∨ r.countQuery = .ok q →
    q.BindsTimes start stop)

/-- Two dates that are timestamps are bound as they are written, in every query of the request. -/
theorem boundFor_of_dates {input : TimeInput} {a b : String} {i j : Instant}
    (start : input.startDate = some a) (stop : input.endDate = some b) (dated : Dated a i)
    (dated' : Dated b j) :
    BoundFor input i.write j.write := by
  have resolved (column : String) : input.resolve column = .ok (some ⟨column, .between i j⟩) :=
    (TimeInput.resolve_of_dates start stop).1 i j dated dated'
  refine ⟨?_, ?_, ?_⟩
  · intro column
    exact ⟨_, resolved column, rfl⟩
  · rintro r rfl q (list | count)
    · exact r.governs_listQuery.bindsTimes (resolved _) list
    · exact r.governs_countQuery.bindsTimes (resolved _) count
  · rintro r rfl q (list | count)
    · exact r.governs_listQuery.bindsTimes (resolved _) list
    · exact r.governs_countQuery.bindsTimes (resolved _) count

/-- **Bound times are ordered as texts as they are in time.**  Two timestamps that are not second 60 and
    whose years in UTC have four digits are bound as date and time of 26 characters; the texts are the same
    if the times are, cut off to microseconds, and one comes first if its time does. -/
theorem bound_times_in_order (a b : Timestamp) (plainA : a.second ≠ 60) (plainB : b.second ≠ 60)
    (yearA : 0 ≤ a.instant.year ∧ a.instant.year ≤ 9999)
    (yearB : 0 ≤ b.instant.year ∧ b.instant.year ≤ 9999) :
    ∃ start stop : Stamp,
      (∀ input : TimeInput, input.startDate = some a.text → input.endDate = some b.text →
        BoundFor input start.text stop.text) ∧
      start.text.length = 26 ∧ stop.text.length = 26 ∧
      start.micros = a.micros ∧ stop.micros = b.micros ∧
      (start.text = stop.text ↔ a.micros = b.micros) ∧
      (start.text < stop.text ↔ a.micros < b.micros) ∧
      (a.time ≤ b.time → start.text ≤ stop.text) := by
  obtain ⟨start, writtenA, microsA⟩ := a.exists_stamp plainA yearA
  obtain ⟨stop, writtenB, microsB⟩ := b.exists_stamp plainB yearB
  refine ⟨start, stop, ?_, start.length_text, stop.length_text, microsA, microsB, ?_, ?_, ?_⟩
  · intro input startDate endDate
    rw [← writtenA, ← writtenB]
    exact boundFor_of_dates startDate endDate ⟨a, rfl, rfl⟩ ⟨b, rfl, rfl⟩
  · rw [Stamp.text_inj, microsA, microsB]
  · rw [Stamp.text_lt_iff, microsA, microsB]
  · intro ordered
    rw [← String.not_lt, Stamp.text_lt_iff, microsA, microsB]
    exact not_lt_of_ge (Timestamp.micros_mono ordered)

/-- A minute past half an hour into March in Paris, which is on the leap day in UTC. -/
def pastMidnight : Timestamp where
  date := ⟨2024, 3, 1⟩
  onCalendar := by decide
  fourDigits := by decide
  separator := 'T'
  separates := by decide
  hour := 0
  minute := 31
  second := 0
  inDay := by decide
  inHour := by decide
  inMinute := by decide
  fraction := "1234567".toList
  decimal := List.all_eq_true.mp (by decide)
  offset := .ahead 1 0 (by decide) (by decide)

/-- Less than a microsecond later, in New York. -/
def beforeMidnight : Timestamp where
  date := ⟨2024, 2, 29⟩
  onCalendar := by decide
  fourDigits := by decide
  separator := ' '
  separates := by decide
  hour := 18
  minute := 31
  second := 0
  inDay := by decide
  inHour := by decide
  inMinute := by decide
  fraction := "1234570000".toList
  decimal := List.all_eq_true.mp (by decide)
  offset := .behind '-' (by decide) 5 0 (by decide) (by decide)

/-- Two days where the times were written and one in UTC; less than a microsecond lies between them. -/
theorem bound_times_in_order_leapDay :
    pastMidnight.text = "2024-03-01T00:31:00.1234567+01:00" ∧
      beforeMidnight.text = "2024-02-29 18:31:00.1234570000-05:00" ∧
      ∃ start stop : Stamp, start.text < stop.text ∧ start.text.length = 26 ∧
        BoundFor ⟨none, some pastMidnight.text, some beforeMidnight.text⟩ start.text stop.text := by
  have plainA : pastMidnight.second ≠ 60 := by decide
  have plainB : beforeMidnight.second ≠ 60 := by decide
  have earlier : pastMidnight.micros < beforeMidnight.micros := by
    rw [pastMidnight.micros_eq plainA, beforeMidnight.micros_eq plainB]
    decide
  obtain ⟨start, stop, bound, long, _, _, _, _, less, _⟩ :=
    bound_times_in_order pastMidnight beforeMidnight plainA plainB (by decide) (by decide)
  exact ⟨by decide, by decide, start, stop, less.mpr earlier, long, bound _ rfl rfl⟩

end TraceQuery
