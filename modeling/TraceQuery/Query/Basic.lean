/-
  A finished query: its text and the parameters it refers to.

  `Query.check` is the only gate.  Every placeholder of the text must be bound and every parameter
  must be referred to; of several faults the first name in ascending order is reported, and a
  placeholder without a value comes before a value without a placeholder.

  The gate looks at the finished text as a reader of SQL does, quotes and all, and not at the parts that
  it was made of, so it would catch a mistake in any of the builders.  That it never has to, for the
  builders of this library and the columns of its views, is what most of the theory is about.

  Mathlib-free.
-/
import TraceQuery.Query.Parameters
import TraceQuery.Sql.Placeholder

namespace TraceQuery

/-- A text of SQL and the values for its placeholders. -/
structure Query where
  text : String
  parameters : Parameters

@[ext] theorem Query.ext {q r : Query} (ht : q.text = r.text) (hp : q.parameters = r.parameters) :
    q = r := by
  cases q; cases r; simp_all

/-- Pairs a text with its parameters if they agree. -/
def Query.check (text : String) (parameters : Parameters) : Except QueryError Query :=
  let names := Sql.placeholderNames text
  match names.find? fun n => !parameters.contains n with
  | some n => .error (.unboundPlaceholder n)
  | none =>
    match parameters.names.find? fun n => !names.contains n with
    | some n => .error (.unusedParameter n)
    | none => .ok ⟨text, parameters⟩

/-- The gate changes nothing. -/
theorem Query.check_eq_ok {text : String} {parameters : Parameters} {q : Query}
    (h : check text parameters = .ok q) : q = ⟨text, parameters⟩ := by
  simp only [check] at h
  split at h
  · simp at h
  · split at h
    · simp at h
    · simpa using h.symm

/-! ## Names of filter parameters -/

/-- A column id made fit for a parameter name: every other character becomes an underscore. -/
def nameSafe (column : String) : String :=
  column.map fun c => if Sql.isNameChar c then c else '_'

/-- The parameter key of the filter at a position: group, column and position, joined by
    underscores. -/
def parameterKey (group column : String) (index : Nat) : String :=
  group ++ "_" ++ nameSafe column ++ "_" ++ Text.writeNat index

end TraceQuery
