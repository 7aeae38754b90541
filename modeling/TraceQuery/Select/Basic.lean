/-
  Assembling one SELECT statement.

  1. **Statement**: the clauses as data (`Statement`), and their text (`Statement.text`), one clause a
     line; a clause with nothing in it is left out.
  2. **Select**: what is asked for.  Columns, table, grouping and order are texts of the program's
     own; the window, the filters and the page come from a request and bring values with them.
  3. **Building** (`Select.build`): the conditions are collected in order, each binding its values:
     the window, the filters, the fixed conditions, then the filters on groups, and at last the page.
     The first error ends it.  The finished text and its parameters pass `Query.check`.
  4. **Keys**: the values of the filter at position `i` have names made of the filter's group, column
     and `i`.  Dropped filters keep their position, so names do not depend on what is dropped.

  Whatever brings values is a list of outcomes before anything is bound (`rowOutcomes`, `groupOutcomes`),
  and `collect` is the one place where it is.  So laws of a select are laws of lists of outcomes: which
  error comes first, which names are bound, what changes if one outcome does.

  Mathlib-free.
-/
import TraceQuery.Query.Basic
import TraceQuery.Select.Page
import TraceQuery.Select.Sort
import TraceQuery.Select.TimeRange

namespace TraceQuery

/-! ## The statement -/

/-- The clauses of a statement, as data. -/
structure Statement where
  columns : List String
  table : String
  conditions : List String
  groupBy : List String
  groupConditions : List String
  orderBy : List SortTerm
  page : Option String
deriving DecidableEq, Repr

/-- A clause of a keyword and its parts, left out if there are none. -/
def clause (keyword separator : String) (parts : List String) : List String :=
  if parts.isEmpty then [] else [keyword ++ " " ++ separator.intercalate parts]

namespace Statement

/-- What is projected: all columns if none are named. -/
def projection (s : Statement) : String :=
  if s.columns.isEmpty then "*" else ", ".intercalate s.columns

/-- The clauses that are not empty, in the order of SQL. -/
def clauses (s : Statement) : List String :=
  ["SELECT " ++ s.projection, "FROM " ++ s.table] ++
    clause "WHERE" " AND " s.conditions ++
    clause "GROUP BY" ", " s.groupBy ++
    clause "HAVING" " AND " s.groupConditions ++
    clause "ORDER BY" ", " (s.orderBy.map SortTerm.sql) ++
    s.page.toList

/-- The statement, one clause a line. -/
def text (s : Statement) : String := "\n".intercalate s.clauses

end Statement

/-! ## What is asked for -/

/-- What is asked for. -/
structure Select where
  columns : List String
  table : String
  timeRange : Option TimeRange
  filters : List Filter
  columnFilters : Option ColumnFilters
  conditions : List Condition
  groupBy : List String
  groupFilters : List Filter
  groupColumnFilters : Option ColumnFilters
  orderBy : List SortTerm
  page : Option Page

/-- A select of columns from a table, with nothing else asked for. -/
def Select.plain (columns : List String) (table : String) : Select :=
  ⟨columns, table, none, [], none, [], [], [], none, [], none⟩

/-- A condition of the program's own, without values. -/
def Condition.fixed (text : String) : Condition := ⟨text, []⟩

/-! ## Collecting conditions -/

/-- The outcomes of a list of filters; without columns to filter all are dropped. -/
def filterOutcomes (group : String) (columns : Option ColumnFilters) (filters : List Filter) :
    List FilterOutcome :=
  match columns with
  | none => []
  | some columns => filters.mapIdx fun i f => columns.build f (parameterKey group f.column i)

/-- Collects the conditions in order and binds their values. -/
def collect : Parameters → List FilterOutcome → Except QueryError (List String × Parameters)
  | params, [] => .ok ([], params)
  | _, .error e :: _ => .error e
  | params, .ok none :: rest => collect params rest
  | params, .ok (some c) :: rest => do
    -- values are bound before the next outcome is looked at, so a collision can come before a later error
    let params ← params.bindAll c.bindings
    let (texts, params) ← collect params rest
    return (c.text :: texts, params)

namespace Select

/-- The outcomes that make up WHERE. -/
def rowOutcomes (s : Select) : List FilterOutcome :=
  (s.timeRange.toList.map fun range => .ok (some range.condition)) ++
    filterOutcomes "filter" s.columnFilters s.filters ++
    s.conditions.map fun c => .ok (some c)

/-- The outcomes that make up HAVING. -/
def groupOutcomes (s : Select) : List FilterOutcome :=
  filterOutcomes "having" s.groupColumnFilters s.groupFilters

/-- The statement and the parameters that it needs. -/
def assemble (s : Select) : Except QueryError (Statement × Parameters) := do
  let (conditions, params) ← collect Parameters.empty s.rowOutcomes
  let (groupConditions, params) ← collect params s.groupOutcomes
  let page := s.page.map Page.clause
  let params ← params.bindAll (page.toList.flatMap Condition.bindings)
  return ({ columns := s.columns
            table := s.table
            conditions
            groupBy := s.groupBy
            groupConditions
            orderBy := s.orderBy
            page := page.map Condition.text }, params)

/-- The finished query. -/
def build (s : Select) : Except QueryError Query := do
  let (statement, params) ← s.assemble
  Query.check statement.text params

end Select

end TraceQuery
