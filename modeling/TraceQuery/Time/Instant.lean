/-
  Instants: reading them from a timestamp and writing them as a parameter.

  1. **Instants** are whole seconds since 1970-01-01T00:00:00 UTC and nanoseconds.  A leap second is
     the second before it with a billion nanoseconds or more.
  2. **Reading** (`Instant.read`): date, `T`, `t` or one space, time of day, an optional fraction of
     any length of which nine digits count, and `Z`, `z` or an offset in hours and minutes.  Every
     field has its full width.  Second 60 is allowed in any minute.
  3. **Writing** (`Instant.write`): the date and time in UTC with six digits of the second, further
     digits cut off, every field padded with zeros; a year outside 0 to 9999 has a sign.

  Mathlib-free.
-/
import TraceQuery.Text.Numeral
import TraceQuery.Time.Calendar

namespace TraceQuery.Time

open TraceQuery.Text (isDigit digitsValue)

/-- A point in time.  Nanoseconds are below a billion except in a leap second, which is kept as the second
    before it and a billion more. -/
structure Instant where
  seconds : Int
  nanos : Nat
deriving DecidableEq, Repr

/-- Nanoseconds in a second; as a number of nanoseconds it marks a leap second. -/
def nanosInSecond : Nat := 1000000000

/-! ## Reading -/

/-- A number of exactly `width` digits, and what follows it. -/
def takeNumber (width : Nat) (cs : List Char) : Option (Nat × List Char) :=
  let digits := cs.take width
  -- a field that is too short must not borrow from what follows it
  if digits.length = width ∧ digits.all isDigit then some (digitsValue 0 digits, cs.drop width)
  else none

/-- The rest after one of some characters. -/
def takeOneOf (allowed : List Char) : List Char → Option (List Char)
  | [] => none
  | c :: rest => if allowed.contains c then some rest else none

/-- Nanoseconds from the digits of a fraction: nine of them count. -/
def fractionNanos (digits : List Char) : Nat :=
  let counted := digits.take 9
  digitsValue 0 counted * Nat.pow 10 (9 - counted.length)

/-- The fraction of a second, if there is one, and what follows it. -/
def takeFraction : List Char → Option (Nat × List Char)
  | '.' :: cs =>
    let digits := cs.takeWhile isDigit
    if digits.isEmpty then none else some (fractionNanos digits, cs.dropWhile isDigit)
  | cs => some (0, cs)

/-- The characters that begin an offset behind UTC. -/
def minusSigns : List Char := ['-', '\u2212']

/-- The seconds that local time is ahead of UTC, at the end of a timestamp. -/
def readOffset : List Char → Option Int
  | [] => none
  | sign :: cs =>
    if sign = 'Z' ∨ sign = 'z' then
      if cs.isEmpty then some 0 else none
    else if sign = '+' ∨ minusSigns.contains sign then do
      let (hours, cs) ← takeNumber 2 cs
      let cs ← takeOneOf [':'] cs
      let (minutes, cs) ← takeNumber 2 cs
      -- the offset is the last part of a timestamp, so nothing may be left
      if hours ≤ 23 ∧ minutes ≤ 59 ∧ cs.isEmpty then
        let seconds := Int.ofNat (hours * 3600 + minutes * 60)
        some (if sign = '+' then seconds else -seconds)
      else none
    else none

/-- The date at the front of a timestamp. -/
def takeDate (cs : List Char) : Option (Date × List Char) := do
  let (year, cs) ← takeNumber 4 cs
  let cs ← takeOneOf ['-'] cs
  let (month, cs) ← takeNumber 2 cs
  let cs ← takeOneOf ['-'] cs
  let (day, cs) ← takeNumber 2 cs
  let date : Date := ⟨Int.ofNat year, month, day⟩
  if date.isValid then some (date, cs) else none

/-- The second of the day and the nanoseconds; second 60 is second 59 and a billion nanoseconds. -/
def takeTime (cs : List Char) : Option ((Nat × Nat) × List Char) := do
  let (hour, cs) ← takeNumber 2 cs
  let cs ← takeOneOf [':'] cs
  let (minute, cs) ← takeNumber 2 cs
  let cs ← takeOneOf [':'] cs
  let (second, cs) ← takeNumber 2 cs
  let (nanos, cs) ← takeFraction cs
  if hour ≤ 23 ∧ minute ≤ 59 ∧ second ≤ 60 then
    let minutes := hour * 60 + minute
    -- a leap second stays in its own minute, and its fraction goes on from a billion
    if second = 60 then some ((minutes * 60 + 59, nanos + nanosInSecond), cs)
    else some ((minutes * 60 + second, nanos), cs)
  else none

/-- Seconds in a day of the calendar; leap seconds do not count. -/
def secondsInDay : Int := 86400

/-- The instant that a timestamp denotes. -/
def Instant.read (text : String) : Option Instant := do
  let (date, cs) ← takeDate text.toList
  let cs ← takeOneOf ['T', 't', ' '] cs
  let ((second, nanos), cs) ← takeTime cs
  let offset ← readOffset cs
  some ⟨date.toDays * secondsInDay + Int.ofNat second - offset, nanos⟩

/-! ## Writing -/

/-- Decimal digits, filled up with zeros on the left. -/
def padded (width n : Nat) : List Char :=
  let digits := Nat.toDigits 10 n
  List.replicate (width - digits.length) '0' ++ digits

/-- Four digits, and a sign in front of a year that needs one. -/
def yearChars (year : Int) : List Char :=
  if 0 ≤ year ∧ year ≤ 9999 then padded 4 year.toNat
  else (if year < 0 then '-' else '+') :: padded 4 year.natAbs

/-- Year, month and day with dashes between them. -/
def dateChars (d : Date) : List Char :=
  yearChars d.year ++ '-' :: padded 2 d.month ++ '-' :: padded 2 d.day

/-- A second of the day with six digits of its fraction. -/
def timeChars (second nanos : Nat) : List Char :=
  padded 2 (second / 3600) ++ ':' :: padded 2 (second / 60 % 60) ++
    -- the quotient is one in a leap second, which is written as second 60
    ':' :: padded 2 (second % 60 + nanos / nanosInSecond) ++ '.' :: padded 6 (nanos % nanosInSecond / 1000)

/-- The instant in UTC as a parameter value. -/
def Instant.write (i : Instant) : String :=
  String.ofList (dateChars (Date.ofDays (i.seconds / secondsInDay)) ++
    ' ' :: timeChars (i.seconds % secondsInDay).toNat i.nanos)

end TraceQuery.Time
