/-
  Datapoints of evaluation runs.

  1. **One run** is a set of datapoints joined to their traces; what is shown of them is a list of
     columns (`EvalColumn`), among them one for every score.
  2. **Two runs** side by side: a target run is a statement of its own, joined to the primary run on
     the datapoint's `index`.  The primary statement stands in the joined one as it is, sorted and
     paged; the target statement has no filters, no order and no page.
  3. **Order**: the joined statement is sorted again, by the name of the column that sorted the
     primary run.
  4. **Statistics** are averages of the numeric columns and a count; their names begin with `avg:`, so
     that they hide no column that a filter looks at.

  Mathlib-free.
-/
import TraceQuery.View.Spans

namespace TraceQuery

open TraceQuery.Sql

/-! ## Columns -/

/-- A column of a run. -/
structure EvalColumn where
  /-- The id of the column and its name in the result. -/
  id : String
  sql : String
  /-- The expression that filters compare, if it is another one. -/
  filterSql : Option String
  /-- The type; a column without one cannot be filtered. -/
  type : Option ColumnType
  /-- Tells whether the column is also shown for the target run. -/
  comparable : Bool
deriving DecidableEq, Repr

namespace EvalColumn

/-- A column that is only shown. -/
def plain (id sql : String) : EvalColumn := ⟨id, sql, none, none, false⟩

/-- A column that can be filtered. -/
def typed (id sql : String) (type : ColumnType) : EvalColumn := ⟨id, sql, none, some type, false⟩

/-- What a filter of the column compares: an expression of its own where the shown one is cut short. -/
def filterExpression (c : EvalColumn) : String := c.filterSql.getD c.sql

/-- Tells whether the column can be averaged, by the same reading of its type that filters numbers. -/
def isNumeric (c : EvalColumn) : Bool := (c.type.bind ColumnType.numeric?).isSome

/-- The column as a statement shows it, under its id. -/
def projection (c : EvalColumn) : String := aliased c.sql c.id

/-- The filter of the column: text for text and for ids, membership for arrays, comparison for
    numbers. -/
def filter? (c : EvalColumn) : Option ColumnFilter :=
  match c.type with
  | none => none
  | some .string => some (.string c.filterExpression)
  -- ids are compared as text, so that a value that is no id matches nothing instead of failing
  | some .uuid => some (.string ("toString(" ++ c.filterExpression ++ ")"))
  | some (.array element) => some (.array c.filterExpression element)
  | some type => type.numeric?.map fun n => .number c.filterExpression n

end EvalColumn

namespace Evaluation

/-! ## The table -/

/-- Datapoints beside their traces, whose times and costs some columns show. -/
def table : String := "evaluation_datapoints dp JOIN traces t ON t.id = dp.trace_id"

/-- The column that runs are joined on. -/
def indexId : String := "index"

/-- What the names of the target run's columns begin with. -/
def comparedMark : String := "compared:"

/-- What the ids of score columns begin with. -/
def scoreMark : String := "score:"

/-- What the names of averages begin with. -/
def averageMark : String := "avg:"

/-- The position of a datapoint in its run, equal in two runs for datapoints that belong together. -/
def indexColumn : EvalColumn := .typed indexId "dp.index" .uint64

/-- A long text of a datapoint: its start is shown, all of it is filtered. -/
def textColumn (id field : String) (comparable : Bool) : EvalColumn :=
  ⟨id, "substring(" ++ field ++ ", 1, 200)", some field, some .string, comparable⟩

/-- The column of a score. -/
def scoreColumn (name : String) : EvalColumn :=
  ⟨scoreMark ++ name, "JSONExtractFloat(dp.scores, " ++ quoteLiteral name ++ ")", none, some .float64,
    true⟩

/-- The columns of every run, and one for each score. -/
def standardColumns (scores : List String) : List EvalColumn :=
  [indexColumn,
    .plain "id" "dp.id",
    .plain "trace_id" "dp.trace_id",
    textColumn "data" "dp.data" false,
    textColumn "target" "dp.target" false,
    textColumn "output" "dp.executor_output" true,
    ⟨"duration", "dateDiff('millisecond', t.start_time, t.end_time)", none, some .float64, true⟩,
    ⟨"total_tokens", "t.total_tokens", none, some .int64, true⟩,
    ⟨"total_cost", "t.total_cost", none, some .float64, true⟩] ++
    scores.map scoreColumn

/-- The filters of the columns that have one; of two columns with one id the later one holds. -/
def columnFilters (columns : List EvalColumn) : ColumnFilters :=
  -- a column without a type has no filter, so a request that filters by it filters by nothing
  .ofList (columns.filterMap fun c => c.filter?.map fun f => (c.id, f))

/-- The columns, with an index in front if there is none. -/
def withIndex (columns : List EvalColumn) : List EvalColumn :=
  if columns.any fun c => c.id == indexId then columns else indexColumn :: columns

/-- Restricts datapoints to a run. -/
def runCondition (param run : String) : Condition :=
  { text := "dp.evaluation_id = " ++ placeholder param .uuid
    bindings := [(param, .string run)] }

end Evaluation

/-! ## What is asked for -/

/-- The wish to sort by a column. -/
structure EvalSort where
  column : String
  direction : Direction
deriving DecidableEq, Repr

/-- What a query over runs is made from.  The columns are data, so that what holds of the queries holds for
    any list of them, and not only for the standard one. -/
structure EvalOptions where
  evaluationId : String
  targetId : Option String
  /-- What is shown, in this order; the index is put in front if it is missing. -/
  columns : List EvalColumn
  /-- Conditions on the primary run; the target run has none. -/
  filters : List Filter
  traceIds : List String
  sort : Option EvalSort
  /-- Cuts the primary run before it is joined. -/
  page : Option Page

/-- A request as it arrives. -/
structure EvalRequest where
  evaluationId : String
  targetId : Option String
  scoreNames : List String
  filters : List Filter
  traceIds : List String
  sortBy : Option String
  sortDirection : Option Direction
  page : PageInput

/-- What a request asks for: an empty target is none, and sorting ascends unless asked otherwise. -/
def EvalRequest.toOptions (r : EvalRequest) : EvalOptions :=
  { evaluationId := r.evaluationId
    targetId := r.targetId.filter fun t => !t.isEmpty
    columns := Evaluation.standardColumns r.scoreNames
    filters := r.filters
    traceIds := r.traceIds
    sort := r.sortBy.map fun column => ⟨column, r.sortDirection.getD .asc⟩
    page := r.page.page? }

namespace Evaluation

/-! ## Order -/

/-- The column that sorts a run and its direction: the requested column if there is one of that id,
    and otherwise the index, ascending. -/
def orderColumn (sort : Option EvalSort) (columns : List EvalColumn) : EvalColumn × Direction :=
  let requested := sort.bind fun s =>
    (columns.find? fun c => c.id == s.column).map fun c => (c, s.direction)
  -- a requested column that is not among the columns is passed over, not refused
  requested.getD ((columns.find? fun c => c.id == indexId).getD indexColumn, .asc)

/-! ## Joining two runs -/

/-- A column of the primary run in the joined statement. -/
def primaryName (id : String) : String := "p." ++ quoteIdentifier id

/-- A column of the target run in the joined statement. -/
def comparedName (id : String) : String := "c." ++ quoteIdentifier id

/-- What the joined statement shows: all columns of the primary run, then the comparable ones of the
    target run. -/
def joinedColumns (columns : List EvalColumn) : List String :=
  (columns.map fun c => aliased (primaryName c.id) c.id) ++
    ((columns.filter fun c => c.comparable).map fun c =>
      aliased (comparedName c.id) (comparedMark ++ c.id))

/-- The joined statement: one row for each row of the primary run, with nulls where the target run
    has no such index. -/
def joinedText (primary compared : String) (columns : List EvalColumn) (sort : EvalSort) : String :=
  "SELECT " ++ ", ".intercalate (joinedColumns columns) ++
    "\nFROM (\n" ++ primary ++ "\n) AS p\nANY LEFT JOIN (\n" ++ compared ++ "\n) AS c ON " ++
    primaryName indexId ++ " = " ++ comparedName indexId ++
    "\nORDER BY " ++ primaryName sort.column ++ " " ++ sort.direction.sql ++
    "\nSETTINGS join_use_nulls = 1"

/-- Joins the statements of two runs and their parameters. -/
def comparison (primary compared : Query) (columns : List EvalColumn) (sort : EvalSort) :
    Except QueryError Query := do
  let params ← primary.parameters.bindAll compared.parameters.entries
  -- the check runs over the joined text, so both statements are inside what it sees
  Query.check (joinedText primary.text compared.text columns sort) params

/-- The statement of a target run: the index and the comparable columns. -/
def comparedSelect (target : String) (columns : List EvalColumn) : Select :=
  { Select.plain
      ((columns.filter fun c => c.id == indexId || c.comparable).map EvalColumn.projection) table with
    conditions := [runCondition "targetId" target] }

end Evaluation

/-! ## The queries -/

namespace EvalOptions

open Evaluation

/-- The datapoints of the primary run, and those of some traces if any are named. -/
def conditions (o : EvalOptions) : List Condition :=
  runCondition "evaluationId" o.evaluationId :: idsConditions "dp.trace_id" "traceIds" o.traceIds

/-- The columns that queries work with. -/
def allColumns (o : EvalOptions) : List EvalColumn := withIndex o.columns

/-- A projection of the primary run's datapoints. -/
def restricted (o : EvalOptions) (projection : List String) : Select :=
  { Select.plain projection table with
    filters := o.filters
    columnFilters := some (columnFilters o.allColumns)
    conditions := o.conditions }

/-- The column and direction that sort the run. -/
def order (o : EvalOptions) : EvalColumn × Direction := orderColumn o.sort o.allColumns

/-- The sorted datapoints of the primary run, paged if a page is asked for. -/
def primarySelect (o : EvalOptions) : Select :=
  { o.restricted (o.allColumns.map EvalColumn.projection) with
    orderBy := [⟨o.order.1.sql, o.order.2⟩]
    page := o.page }

/-- Datapoints of one run, or of two side by side. -/
def runQuery (o : EvalOptions) : Except QueryError Query := do
  let primary ← o.primarySelect.build
  match o.targetId with
  | none => return primary
  | some target =>
    let compared ← (comparedSelect target o.allColumns).build
    comparison primary compared o.allColumns ⟨o.order.1.id, o.order.2⟩

/-- The average of a column, under a name of its own. -/
def averageColumn (c : EvalColumn) : String :=
  -- the mark keeps the alias from hiding the column itself in the conditions of the same statement
  aliased ("avg(" ++ c.sql ++ ")") (averageMark ++ c.id)

/-- Averages of the numeric columns other than the index, and the number of datapoints. -/
def statsQuery (o : EvalOptions) : Except QueryError Query :=
  let averages := (o.allColumns.filter fun c => c.id != indexId && c.isNumeric).map averageColumn
  (o.restricted (averages ++ [countColumn])).build

/-- The number of datapoints of the primary run. -/
def countQuery (o : EvalOptions) : Except QueryError Query := (o.restricted [countColumn]).build

end EvalOptions

end TraceQuery
