/-
  Order of rows.

  A request sorts by a column id; `resolveSort` looks it up among the columns that can be sorted by
  and falls back to a default, so that nothing of a request gets into `ORDER BY`.

  The columns are a list of ids with their expressions, and of several columns with one id the first one
  counts.  A direction without a column is not looked at.

  Mathlib-free.
-/
namespace TraceQuery

/-- Which end comes first. -/
inductive Direction where
  | asc
  | desc
deriving DecidableEq, Repr

/-- The word for a direction. -/
def Direction.sql : Direction → String
  | asc => "ASC"
  | desc => "DESC"

/-- A term of `ORDER BY`: an expression of the program's own and a direction. -/
structure SortTerm where
  expression : String
  direction : Direction
deriving DecidableEq, Repr

/-- How a term is written. -/
def SortTerm.sql (t : SortTerm) : String := t.expression ++ " " ++ t.direction.sql

/-- The term that a request asks for: its column's expression if it can be sorted by, in the asked or
    else the default direction; the default term otherwise. -/
def resolveSort (sortBy : Option String) (direction : Option Direction)
    (sortable : List (String × String)) (default : SortTerm) : SortTerm :=
  match sortBy with
  | none => default
  | some id =>
    match sortable.find? fun column => column.1 == id with
    | some (_, expression) => ⟨expression, direction.getD default.direction⟩
    | none => default

end TraceQuery
