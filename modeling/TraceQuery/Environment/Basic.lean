/-
  The environment of a run: names with their values.

  A name has one value.  `Environment.provide` gives a name a value only if it has none, so that what
  the surroundings say wins over what a file says, and an earlier line of a file over a later one.  An
  environment keeps texts that end at a NUL, so a value with a NUL in it cannot be given
  (`UnstorableValue`).

  Mathlib-free.
-/
import TraceQuery.Text.Quoted

namespace TraceQuery

/-- Names with their values; the first entry of a name counts. -/
structure Environment where
  entries : List (String × String)
deriving DecidableEq, Repr

/-- A value that no environment can keep, and the name that it was meant for. -/
structure UnstorableValue where
  name : String
  value : String
deriving DecidableEq, Repr

/-- The message, in which name and value are quoted. -/
def UnstorableValue.message (u : UnstorableValue) : String :=
  "failed to set environment variable " ++ Text.quoted u.name ++ " to " ++ Text.quoted u.value ++
    ": NUL byte in the value"

namespace Environment

/-- The value of a name, if it has one. -/
def get? (e : Environment) (name : String) : Option String :=
  (e.entries.find? fun entry => entry.1 == name).map Prod.snd

/-- Tells whether a value can be kept. -/
def isStorable (value : String) : Bool := value.toList.all fun c => c != '\x00'

/-- The environment with a value for a name that has none. -/
def provide (e : Environment) (name value : String) : Except UnstorableValue Environment :=
  if (e.get? name).isSome then .ok e
  else if isStorable value then .ok ⟨e.entries ++ [(name, value)]⟩
  else .error ⟨name, value⟩

end Environment

end TraceQuery
