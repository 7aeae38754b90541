/-
  Filter operators.

  The set is closed: a request names one of ten operators (`Operator.name`), and any other name is
  refused before SQL is written.  Six of them compare and have a symbol in SQL; the four that match
  patterns or members have none.

  Each operator has an opposite, and the negated ones are marked (`isNegated`).  Whether a family of
  columns can express an operator is not decided here but by the family.

  Mathlib-free.
-/
namespace TraceQuery

/-- The ten operators. -/
inductive Operator where
  | eq
  | neq
  | gt
  | gte
  | lt
  | lte
  | contains
  | notContains
  | has
  | notHas
deriving DecidableEq, Repr

namespace Operator

/-- The name of the operator in a request. -/
def name : Operator → String
  | eq => "eq"
  | neq => "neq"
  | gt => "gt"
  | gte => "gte"
  | lt => "lt"
  | lte => "lte"
  | contains => "contains"
  | notContains => "not_contains"
  | has => "has"
  | notHas => "not_has"

/-- The operators, for looking one up by its name. -/
def all : List Operator := [eq, neq, gt, gte, lt, lte, contains, notContains, has, notHas]

/-- The operator with this name. -/
def ofName? (text : String) : Option Operator := all.find? fun op => op.name == text

/-- The comparison in SQL. -/
def symbol? : Operator → Option String
  | eq => some "="
  | neq => some "!="
  | gt => some ">"
  | gte => some ">="
  | lt => some "<"
  | lte => some "<="
  | contains | notContains | has | notHas => none

/-- Tells whether the operator turns its predicate around. -/
def isNegated : Operator → Bool
  | neq | notContains | notHas => true
  | _ => false

/-- Every operator is found by its name, so the names are distinct. -/
theorem ofName?_name (op : Operator) : ofName? op.name = some op := by
  cases op <;> decide

end Operator

end TraceQuery
