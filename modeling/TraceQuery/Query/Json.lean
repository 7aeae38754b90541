/-
  Queries as JSON.

  A query is an object of its text and its parameters, in that order; parameters ascend by name.  A
  bound value is written by its content alone: a string, an integer, a number with a point or an
  exponent, an array of strings.  A value that is no finite number is null.

  The kind of a value is not written, but it can be seen from the text: an integer has neither point nor
  exponent, and a double has one of them.  So the text determines the query, if it holds no number that is
  not finite.

  Mathlib-free.
-/
import TraceQuery.Json.Value
import TraceQuery.Query.Basic

namespace TraceQuery

open TraceQuery.Json (Value)

/-- A bound value by its content. -/
def ParamValue.toJson : ParamValue → Value
  | string text => .string text
  | int n => .integer n
  | float (.finite x) => .scalar (.number (.float x))
  | float _ => .null
  | strings texts => .array (texts.map Value.string)

/-- The parameters as an object, in their order. -/
def Parameters.toJson (p : Parameters) : Value :=
  .object (p.entries.map fun (name, value) => (name, value.toJson))

/-- The query as an object of two members. -/
def Query.toJson (q : Query) : Value :=
  .object [("query", .string q.text), ("parameters", q.parameters.toJson)]

/-- The text that is printed for a query. -/
def Query.render (q : Query) (pretty : Bool) : String :=
  if pretty then q.toJson.pretty else q.toJson.compact

end TraceQuery
