/-
  Why a query is not built.

  Each cause carries what its message names.  Three of them are about what a request asks for, its
  operators and its dates; two about its form, the filters as JSON and their number; and three about
  names, for which a query of the views never gives cause: two values for one name, a placeholder without
  a value, and a value without a placeholder.

  Mathlib-free.
-/
import TraceQuery.Filter.Operator
import TraceQuery.Text.Numeral

namespace TraceQuery

/-- The causes, each with what its message needs. -/
inductive QueryError where
  | unknownOperator (name : String)
  | unsupportedOperator (column : String) (operator : Operator)
  | parameterCollision (name : String)
  | unboundPlaceholder (name : String)
  | unusedParameter (name : String)
  | invalidFilterJson (reason : String)
  | tooManyFilters (max count : Nat)
  | invalidTimestamp (text : String)
deriving DecidableEq, Repr

/-- What a user is told. -/
def QueryError.message : QueryError → String
  | unknownOperator name => "Unknown filter operator: " ++ name
  | unsupportedOperator column operator =>
    "Operator '" ++ operator.name ++ "' is not supported for column '" ++ column ++ "'"
  | parameterCollision name => "Parameter '" ++ name ++ "' is bound twice with different values"
  | unboundPlaceholder name => "Placeholder '" ++ name ++ "' has no bound parameter"
  | unusedParameter name => "Parameter '" ++ name ++ "' is not referenced by the query"
  | invalidFilterJson reason => "Invalid filter JSON: " ++ reason
  | tooManyFilters max count =>
    "Maximum " ++ Text.writeNat max ++ " filters allowed, got " ++ Text.writeNat count
  | invalidTimestamp text => "Invalid timestamp format: " ++ text ++ ". Use ISO 8601 format."

/-- The operator that a request names. -/
def Operator.read (text : String) : Except QueryError Operator :=
  match Operator.ofName? text with
  | some op => .ok op
  | none => .error (.unknownOperator text)

end TraceQuery
