/-
  Lists and counts of sessions.

  Sessions are not stored; they are traces grouped by their session id.

  1. **Routing**: what is known of a session is an aggregate over its traces, so a filter on such a
     column goes to HAVING and any other to WHERE (`splitFilters`).  Both keep their order.  The two
     clauses have libraries of their own (`columnFilters`, `aggregateFilters`), and no column is in
     both.
  2. **The common part** (`grouped`): table, window, conditions and both kinds of filters are stated
     once, and the list and the count are that select with other columns.  So whatever the request
     does to one of them it does to the other, failures included.
  3. **Counting**: without filters on groups, sessions are counted by distinct ids.  A count of
     distinct ids cannot see a condition on groups, so with such filters the grouped statement is
     counted from outside.  The outer statement adds no reference, and the parameters are those of the
     inner one.

  Mathlib-free.
-/
import TraceQuery.View.Spans

namespace TraceQuery

open TraceQuery.Sql

/-! ## The request -/

/-- A request for sessions.  Filters of both kinds come in one list, and the view sorts them apart. -/
structure SessionsRequest where
  filters : List Filter
  traceIds : List String
  time : TimeInput
  sortBy : Option String
  sortDirection : Option Direction
  page : PageInput

namespace Sessions

/-! ## The table -/

/-- Sessions have no table of their own. -/
def table : String := "traces"

/-- From the first start to the last end among the traces of a session. -/
def duration : String := "dateDiff('millisecond', MIN(start_time), MAX(end_time))"

/-- Columns whose values are aggregates over the traces of a session. -/
def aggregateColumns : List String :=
  ["trace_count", "input_tokens", "output_tokens", "total_tokens", "input_cost", "output_cost",
    "total_cost", "duration"]

/-- Tells whether a filter on the column waits until the traces are grouped. -/
def isAggregate (column : String) : Bool := aggregateColumns.contains column

/-- Columns that a list can be sorted by. -/
def sortable : List (String × String) :=
  [("start_time", "MIN(start_time)"),
    ("end_time", "MAX(end_time)"),
    ("trace_count", "COUNT(*)"),
    ("duration", duration),
    ("total_tokens", "SUM(total_tokens)"),
    ("total_cost", "SUM(total_cost)")]

/-- Newest first. -/
def defaultSort : SortTerm := ⟨"MIN(start_time)", .desc⟩

/-- Columns of a trace that can be filtered before grouping. -/
def columnFilters : ColumnFilters :=
  .ofList
    [("session_id", .string "session_id"),
      ("user_id", .string "user_id"),
      ("metadata", .keyValue "metadata")]

/-- Aggregates that can be filtered after grouping. -/
def aggregateFilters : ColumnFilters :=
  .ofList
    [("trace_count", .aggregate "COUNT(*)"),
      ("input_tokens", .aggregate "SUM(input_tokens)"),
      ("output_tokens", .aggregate "SUM(output_tokens)"),
      ("total_tokens", .aggregate "SUM(total_tokens)"),
      ("input_cost", .aggregate "SUM(input_cost)"),
      ("output_cost", .aggregate "SUM(output_cost)"),
      ("total_cost", .aggregate "SUM(total_cost)"),
      ("duration", .aggregate duration)]

/-- What the list shows; times are written out, and everything but the id is an aggregate. -/
def columns : List String :=
  [aliased "session_id" "sessionId",
    aliased "any(user_id)" "userId",
    aliased (isoTime "MIN(start_time)") "startTime",
    aliased (isoTime "MAX(end_time)") "endTime",
    aliased duration "duration",
    aliased "COUNT(*)" "traceCount",
    aliased "SUM(input_tokens)" "inputTokens",
    aliased "SUM(output_tokens)" "outputTokens",
    aliased "SUM(total_tokens)" "totalTokens",
    aliased "SUM(input_cost)" "inputCost",
    aliased "SUM(output_cost)" "outputCost",
    aliased "SUM(total_cost)" "totalCost"]

/-! ## Routing -/

/-- Filters on rows, and filters on groups. -/
def splitFilters (filters : List Filter) : List Filter × List Filter :=
  (filters.filter fun f => !isAggregate f.column, filters.filter fun f => isAggregate f.column)

end Sessions

/-! ## The queries -/

namespace SessionsRequest

/-- Traces without a session are left out. -/
def conditions (r : SessionsRequest) : List Condition :=
  .fixed "session_id != ''" :: idsConditions "id" "traceIds" r.traceIds

/-- What the list and the count have in common: the traces in question, grouped. -/
def grouped (r : SessionsRequest) (columns : List String) : Except QueryError Select := do
  let (filters, groupFilters) := Sessions.splitFilters r.filters
  -- the window is resolved here, so that the list and the count fail on the same dates
  let timeRange ← r.time.resolve "start_time"
  return { Select.plain columns Sessions.table with
    timeRange
    filters
    columnFilters := some Sessions.columnFilters
    conditions := r.conditions
    groupBy := ["session_id"]
    groupFilters
    groupColumnFilters := some Sessions.aggregateFilters }

/-- The sorted list, paged if the request is. -/
def listQuery (r : SessionsRequest) : Except QueryError Query := do
  let select ← r.grouped Sessions.columns
  let sort := resolveSort r.sortBy r.sortDirection Sessions.sortable Sessions.defaultSort
  { select with orderBy := [sort], page := r.page.page? }.build

/-- The number of rows of a statement. -/
def countRowsOf (inner : String) : String :=
  "SELECT " ++ countColumn ++ "\nFROM (\n" ++ inner ++ "\n)"

/-- The select that counts the distinct sessions among its rows, without grouping them. -/
def countDistinct (s : Select) : Select :=
  { s with columns := [aliased "COUNT(DISTINCT session_id)" "count"], groupBy := [] }

/-- The number of sessions that the list is taken from. -/
def countQuery (r : SessionsRequest) : Except QueryError Query := do
  let select ← r.grouped ["session_id"]
  -- without groups, HAVING would judge all the rows at once
  if select.groupFilters.isEmpty then
    (countDistinct select).build
  else
    let inner ← select.build
    Query.check (countRowsOf inner.text) inner.parameters

end SessionsRequest

end TraceQuery
