/-
  The calendar: dates and the day numbers that count them.

  Dates are of the Gregorian calendar, extended to all years.  Days are counted from 1970-01-01.
  Counting is done in years that begin in March, so that a leap day is the last of its year, and in
  eras of 400 years, which all have 146097 days.

  1. **Dates** (`Date`) are plain triples; `Date.isValid` tells which of them the calendar has.
  2. **Counting** (`Date.toDays`, `Date.ofDays`): the two directions are closed formulas without a
     loop over years.  That they are inverse to each other on the calendar, and that later dates have
     larger numbers, is proved apart from here.

  Mathlib-free.
-/
namespace TraceQuery.Time

/-- A day by its year, month and day.  Not every value is a date of the calendar; `Date.isValid` tells
    which are. -/
structure Date where
  year : Int
  month : Nat
  day : Nat
deriving DecidableEq, Repr

/-- The Gregorian rule: every fourth year, except for centuries, of which every fourth counts. -/
def isLeapYear (year : Int) : Bool := year % 4 == 0 && (year % 100 != 0 || year % 400 == 0)

/-- The length of a month; a number that is no month has 31 days, and `Date.isValid` refuses it by itself. -/
def daysInMonth (year : Int) (month : Nat) : Nat :=
  match month with
  | 2 => if isLeapYear year then 29 else 28
  | 4 | 6 | 9 | 11 => 30
  | _ => 31

/-- Tells whether the calendar has the date. -/
def Date.isValid (d : Date) : Bool :=
  1 ≤ d.month && d.month ≤ 12 && 1 ≤ d.day && d.day ≤ daysInMonth d.year d.month

/-! ## Counting days -/

/-- Days of an era: 400 years. -/
def daysInEra : Int := 146097

/-- Days from the March that begins year 0 to 1970-01-01. -/
def daysToEpoch : Int := 719468

/-- Days from the start of a year that begins in March to the start of its month `0` to `11`. -/
def daysBeforeMonth (month : Nat) : Nat := (153 * month + 2) / 5

/-- The number of the day, counted from 1970-01-01. -/
def Date.toDays (d : Date) : Int :=
  -- January and February belong to the year that began in the March before
  let year := if d.month ≤ 2 then d.year - 1 else d.year
  let era := year / 400
  let yearOfEra := year % 400
  let dayOfYear := daysBeforeMonth ((d.month + 9) % 12) + d.day - 1
  let dayOfEra := yearOfEra * 365 + yearOfEra / 4 - yearOfEra / 100 + Int.ofNat dayOfYear
  era * daysInEra + dayOfEra - daysToEpoch

/-- The date of a day. -/
def Date.ofDays (days : Int) : Date :=
  let shifted := days + daysToEpoch
  let era := shifted / daysInEra
  let dayOfEra := (shifted % daysInEra).toNat
  -- the three quotients take away the leap days of the era up to the day in question
  let yearOfEra := (dayOfEra - dayOfEra / 1460 + dayOfEra / 36524 - dayOfEra / 146096) / 365
  let dayOfYear := dayOfEra - (365 * yearOfEra + yearOfEra / 4 - yearOfEra / 100)
  let month := (5 * dayOfYear + 2) / 153
  let year := Int.ofNat yearOfEra + era * 400
  -- and back to years that begin in January
  { year := if month < 10 then year else year + 1
    month := if month < 10 then month + 3 else month - 9
    day := dayOfYear - daysBeforeMonth month + 1 }

example : (Date.mk 1970 1 1).toDays = 0 := by decide
example : (Date.mk 2024 2 29).toDays = 19782 := by decide
example : Date.ofDays (-719528) = ⟨0, 1, 1⟩ := by decide
example : Date.ofDays 2932896 = ⟨9999, 12, 31⟩ := by decide

end TraceQuery.Time
