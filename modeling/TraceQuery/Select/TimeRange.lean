/-
  The time window of a query.

  A request selects time with up to three texts.  Two dates together are an absolute window, and
  both must be timestamps.  Otherwise a look-back in hours counts if it is a positive whole number
  (of 32 bits); anything else, such as `all`, means no window and is no error.

  The bounds of an absolute window belong to it, and are bound as texts in the form of the database
  (`Instant.write`), in which the order of texts is the order of time.  Nothing is checked about the
  order of the two dates: a window that ends before it starts selects no rows.

  Mathlib-free.
-/
import TraceQuery.Filter.Column
import TraceQuery.Text.Blank
import TraceQuery.Time.Instant

namespace TraceQuery

open TraceQuery.Time (Instant)
open TraceQuery.Sql (placeholder)

/-- Which times count. -/
inductive TimeWindow where
  | between (start stop : Instant)
  | pastHours (hours : Nat)
deriving DecidableEq, Repr

/-- A window on a column. -/
structure TimeRange where
  column : String
  window : TimeWindow
deriving DecidableEq, Repr

/-- The time selection of a request. -/
structure TimeInput where
  pastHours : Option String
  startDate : Option String
  endDate : Option String
deriving DecidableEq, Repr

/-- No times selected. -/
def TimeInput.none : TimeInput := ⟨.none, .none, .none⟩

/-- The instant of a date in a request. -/
def readTimestamp (text : String) : Except QueryError Instant :=
  match Instant.read text with
  | some i => .ok i
  | none => .error (.invalidTimestamp text)

/-- The look-back that a text asks for. -/
def readLookBack (text : String) : Option Nat :=
  match Text.readHours (Text.trim text) with
  | .ok hours => if 0 < hours then some hours else none
  | .error _ => none

/-- The window on a column that a request selects. -/
def TimeInput.resolve (input : TimeInput) (column : String) :
    Except QueryError (Option TimeRange) :=
  match input.startDate, input.endDate with
  | some start, some stop => do
    -- with two dates a look-back is not looked at, and the first bad date is the error
    let start ← readTimestamp start
    let stop ← readTimestamp stop
    return some ⟨column, .between start stop⟩
  | _, _ =>
    .ok ((input.pastHours.bind readLookBack).map fun hours => ⟨column, .pastHours hours⟩)

/-- The condition of a window, with its bounds as parameters. -/
def TimeRange.condition (range : TimeRange) : Condition :=
  match range.window with
  | .between start stop =>
    { text := range.column ++ " >= " ++ placeholder "startTime" .string ++ " AND " ++
        range.column ++ " <= " ++ placeholder "endTime" .string
      bindings := [("startTime", .string start.write), ("endTime", .string stop.write)] }
  | .pastHours hours =>
    { text := range.column ++ " >= now() - INTERVAL " ++ placeholder "pastHours" .int64 ++ " HOUR"
      bindings := [("pastHours", .int (Int.ofNat hours))] }

end TraceQuery
