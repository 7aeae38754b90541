/-
  Lists and counts of spans.

  A request restricts spans by id, by trace, by filters and by a time window; the list is sorted and
  paged, and the count has the same conditions and neither.

  1. **Shared with other views**: how times are written, how rows are counted, and how a column is
     restricted to a list of ids, which is one array parameter however long the list is.
  2. **The tables of names** (`sortable`, `columnFilters`): a request names columns by words of its
     own, and only these lists turn them into SQL.  No text of a request is ever a column.
  3. **The queries**: `restricted` holds what the list and the count have in common.

  Mathlib-free.
-/
import TraceQuery.Select.Basic

namespace TraceQuery

open TraceQuery.Sql

/-! ## Shared with other views -/

/-- The pattern that writes a time in ISO 8601 with its fraction. -/
def isoPattern : String := "'%Y-%m-%dT%H:%i:%S.%fZ'"

/-- A time expression written in ISO 8601. -/
def isoTime (expression : String) : String :=
  "formatDateTime(" ++ expression ++ ", " ++ isoPattern ++ ")"

/-- The number of rows. -/
def countColumn : String := aliased "COUNT(*)" "count"

/-- Restricts a column of ids to a list, bound as one array. -/
def idsCondition (column param : String) (ids : List String) : Condition :=
  { text := column ++ " IN (" ++ placeholder param (.array .uuid) ++ ")"
    bindings := [(param, .strings ids)] }

/-- The restriction to a list of ids; an empty list restricts nothing. -/
def idsConditions (column param : String) (ids : List String) : List Condition :=
  if ids.isEmpty then [] else [idsCondition column param ids]

/-! ## The request -/

/-- A request for spans.  Empty lists of ids restrict nothing. -/
structure SpansRequest where
  spanIds : List String
  traceIds : List String
  filters : List Filter
  time : TimeInput
  sortBy : Option String
  sortDirection : Option Direction
  page : PageInput

namespace Spans

/-! ## The table -/

/-- The table that spans are read from. -/
def table : String := "spans"

/-- Milliseconds between start and end, shown, filtered and sorted by as if it were a column. -/
def duration : String := "dateDiff('millisecond', start_time, end_time)"

/-- Columns that a list can be sorted by. -/
def sortable : List (String × String) :=
  [("start_time", "start_time"),
    ("end_time", "end_time"),
    ("duration", duration),
    ("name", "name"),
    ("input_tokens", "input_tokens"),
    ("output_tokens", "output_tokens"),
    ("total_tokens", "total_tokens"),
    ("input_cost", "input_cost"),
    ("output_cost", "output_cost"),
    ("total_cost", "total_cost")]

/-- Newest first. -/
def defaultSort : SortTerm := ⟨"start_time", .desc⟩

/-- Columns that can be filtered. -/
def columnFilters : ColumnFilters :=
  .ofList
    [("span_id", .string "toString(span_id)"),
      ("trace_id", .string "toString(trace_id)"),
      ("name", .string "name"),
      ("span_type", .string "span_type"),
      ("path", .string "path"),
      ("model", .string "request_model"),
      ("status", .status "status"),
      ("tags", .array "tags" .string),
      ("attributes", .keyValue "attributes"),
      ("duration", .number duration .float64),
      ("input_tokens", .number "input_tokens" .int64),
      ("output_tokens", .number "output_tokens" .int64),
      ("total_tokens", .number "total_tokens" .int64),
      ("input_cost", .number "input_cost" .float64),
      ("output_cost", .number "output_cost" .float64),
      ("total_cost", .number "total_cost" .float64)]

/-- What the list shows, under the names that a reader of the result knows. -/
def columns : List String :=
  [aliased "span_id" "spanId",
    aliased "trace_id" "traceId",
    aliased "parent_span_id" "parentSpanId",
    aliased "name" "name",
    aliased "span_type" "spanType",
    aliased (isoTime "start_time") "startTime",
    aliased (isoTime "end_time") "endTime",
    aliased duration "duration",
    aliased "input_tokens" "inputTokens",
    aliased "output_tokens" "outputTokens",
    aliased "total_tokens" "totalTokens",
    aliased "input_cost" "inputCost",
    aliased "output_cost" "outputCost",
    aliased "total_cost" "totalCost",
    aliased "request_model" "model",
    aliased "status" "status",
    aliased "path" "path",
    aliased "tags" "tags"]

end Spans

/-! ## The queries -/

namespace SpansRequest

/-- Both lists of ids restrict, so a span must be in each of them that is not empty. -/
def conditions (r : SpansRequest) : List Condition :=
  idsConditions "span_id" "spanIds" r.spanIds ++ idsConditions "trace_id" "traceIds" r.traceIds

/-- What the list and the count have in common. -/
def restricted (r : SpansRequest) (columns : List String) : Except QueryError Select := do
  -- dates are looked at before filters are, so a bad date wins over a bad filter
  let timeRange ← r.time.resolve "start_time"
  return { Select.plain columns Spans.table with
    timeRange
    filters := r.filters
    columnFilters := some Spans.columnFilters
    conditions := r.conditions }

/-- The sorted list, paged if the request is. -/
def listQuery (r : SpansRequest) : Except QueryError Query := do
  let select ← r.restricted Spans.columns
  let sort := resolveSort r.sortBy r.sortDirection Spans.sortable Spans.defaultSort
  { select with orderBy := [sort], page := r.page.page? }.build

/-- The number of spans that the list is taken from. -/
def countQuery (r : SpansRequest) : Except QueryError Query := do
  let select ← r.restricted [countColumn]
  select.build

end SpansRequest

end TraceQuery
