/-
  The calendar and the numbers of its days.

  1. **Years that begin in March** (`Date.toDays_eq`): the number of a day is the number of days before its
     year and the days of the year before it, since a leap day is the last of its year.
  2. **Dates to days** (`Date.Before.toDays_lt`): later dates have greater numbers.
  3. **Days to dates** (`Date.isValid_ofDays`, `Date.toDays_ofDays`): every number is that of a date on the
     calendar.  The year in an era is found by dividing what is left of the days without leap days; the
     quotient never falls, so that the first and the last day of each of the 400 years settle all of them.
  4. **The day after** (`Date.ofDays_add_one`): consecutive numbers are those of consecutive dates, because
     no date lies between a date and the next.

  Mathlib-free.
-/
import TraceQuery.Time.Calendar

namespace TraceQuery.Time

/-! ## Years that begin in March -/

/-- Days from the March that begins year 0 to the March that begins a year. -/
def daysBeforeYear (year : Int) : Int := 365 * year + year / 4 - year / 100 + year / 400

/-- A year that begins in March ends with the February of the next number. -/
theorem daysBeforeYear_add_one (year : Int) :
    daysBeforeYear (year + 1) = daysBeforeYear year + 337 + daysInMonth (year + 1) 2 := by
  simp only [daysInMonth, isLeapYear, Bool.and_eq_true, Bool.or_eq_true, beq_iff_eq, bne_iff_ne, daysBeforeYear]
  split <;> omega

/-- February has 28 or 29 days. -/
theorem daysInFebruary_bounds (year : Int) : daysInMonth year 2 ≤ 29 ∧ 28 ≤ daysInMonth year 2 := by
  simp only [daysInMonth]
  split <;> omega

/-- An earlier year is over before a later one begins. -/
theorem daysBeforeYear_mono {y z : Int} (h : y < z) : daysBeforeYear (y + 1) ≤ daysBeforeYear z := by
  -- centuries are counted in leap cycles, so that one quotient is made from the other
  have centuries (x : Int) : x / 100 = x / 4 / 25 := by omega
  simp only [daysBeforeYear, centuries]
  omega

/-- Every era of 400 years has the same number of days. -/
theorem daysBeforeYear_era (y era : Int) :
    daysBeforeYear (y + era * 400) = era * daysInEra + daysBeforeYear y := by
  simp only [daysBeforeYear, daysInEra]
  omega

namespace Date

/-- The year that begins in March and holds the date. -/
def marchYear (d : Date) : Int := if d.month ≤ 2 then d.year - 1 else d.year

/-- Days of the year that begins in March before the date. -/
def dayOfYear (d : Date) : Nat := daysBeforeMonth ((d.month + 9) % 12) + d.day - 1

/-- The number of a day, in years that begin in March; the division into eras cancels out. -/
theorem toDays_eq (d : Date) : d.toDays = daysBeforeYear d.marchYear + d.dayOfYear - daysToEpoch := by
  have unfolded : d.toDays = d.marchYear / 400 * daysInEra + (d.marchYear % 400 * 365
      + d.marchYear % 400 / 4 - d.marchYear % 400 / 100 + d.dayOfYear) - daysToEpoch := rfl
  have era := daysBeforeYear_era (d.marchYear % 400) (d.marchYear / 400)
  rw [show d.marchYear % 400 + d.marchYear / 400 * 400 = d.marchYear by omega] at era
  have inside : d.marchYear % 400 / 400 = 0 := by omega
  rw [unfolded, era, daysBeforeYear, inside]
  omega

/-! ## Months -/

/-- An earlier month is over before a later one begins. -/
theorem daysBeforeMonth_mono {m n : Nat} (h : m < n) : daysBeforeMonth (m + 1) ≤ daysBeforeMonth n := by
  unfold daysBeforeMonth
  omega

/-- The month of the calendar that comes `month` months after March. -/
def monthAt (month : Nat) : Nat := if month < 10 then month + 3 else month - 9

/-- The months before February have one length in every year. -/
theorem daysBeforeMonth_add_one (year : Int) {month : Nat} (h : month < 11) :
    daysBeforeMonth (month + 1) = daysBeforeMonth month + daysInMonth year (monthAt month) := by
  -- the formula was chosen to meet the lengths of the months, so each is looked at by itself
  have : month = 0 ∨ month = 1 ∨ month = 2 ∨ month = 3 ∨ month = 4 ∨ month = 5 ∨ month = 6 ∨ month = 7 ∨
      month = 8 ∨ month = 9 ∨ month = 10 := by omega
  rcases this with rfl | rfl | rfl | rfl | rfl | rfl | rfl | rfl | rfl | rfl | rfl <;> rfl

/-- The bounds of a date, with February apart. -/
theorem month_cases {d : Date} (h : d.isValid = true) :
    (1 ≤ d.day ∧ 1 ≤ d.month ∧ d.month ≤ 12) ∧
    (d.month ≠ 2 ∧ daysBeforeMonth ((d.month + 9) % 12) + d.day ≤ daysBeforeMonth ((d.month + 9) % 12 + 1) ∨
      d.month = 2 ∧ d.day ≤ daysInMonth d.year 2) := by
  simp only [isValid, Bool.and_eq_true, decide_eq_true_eq] at h
  obtain ⟨⟨⟨low, high⟩, first⟩, last⟩ := h
  refine ⟨⟨first, low, high⟩, ?_⟩
  by_cases february : d.month = 2
  · rw [february] at last
    exact .inr ⟨february, last⟩
  · have index : monthAt ((d.month + 9) % 12) = d.month := by
      unfold monthAt
      split <;> omega
    rw [daysBeforeMonth_add_one d.year (by omega), index]
    exact .inl ⟨february, by omega⟩

/-- A date lies in its year: the days before it are fewer than the days of the year. -/
theorem dayOfYear_lt {d : Date} (h : d.isValid = true) :
    (d.dayOfYear : Int) < daysBeforeYear (d.marchYear + 1) - daysBeforeYear d.marchYear := by
  obtain ⟨⟨first, low, high⟩, month⟩ := month_cases h
  have february := daysInFebruary_bounds (d.marchYear + 1)
  rw [daysBeforeYear_add_one, dayOfYear]
  -- every month but February ends where the next one begins, whatever the year
  rcases month with ⟨other, last⟩ | ⟨isFebruary, last⟩
  · unfold daysBeforeMonth at *
    omega
  · have year : d.marchYear + 1 = d.year := by
      rw [marchYear, if_pos (by omega)]
      omega
    rw [year, isFebruary]
    unfold daysBeforeMonth
    omega

/-! ## The order of dates -/

/-- The date comes first in the calendar. -/
def Before (d e : Date) : Prop :=
  d.year < e.year ∨ d.year = e.year ∧ (d.month < e.month ∨ d.month = e.month ∧ d.day < e.day)

/-- Later dates have greater numbers. -/
theorem Before.toDays_lt {d e : Date} (hd : d.isValid = true) (he : e.isValid = true) (h : d.Before e) :
    d.toDays < e.toDays := by
  have years : d.marchYear < e.marchYear ∨ d.marchYear = e.marchYear ∧ d.dayOfYear < e.dayOfYear := by
    obtain ⟨⟨firstD, lowD, highD⟩, monthD⟩ := month_cases hd
    obtain ⟨⟨firstE, lowE, highE⟩, monthE⟩ := month_cases he
    -- January and February count to the year before, so the order of years changes first
    have order : d.marchYear < e.marchYear ∨ d.marchYear = e.marchYear ∧
        ((d.month + 9) % 12 < (e.month + 9) % 12 ∨ d.month = e.month ∧ d.day < e.day) := by
      unfold Before at h
      unfold marchYear
      split <;> split <;> omega
    rcases order with earlier | ⟨same, earlier | ⟨month, earlier⟩⟩
    · exact .inl earlier
    · have := daysBeforeMonth_mono earlier
      refine .inr ⟨same, ?_⟩
      unfold dayOfYear
      rcases monthD with ⟨-, last⟩ | ⟨february, -⟩
      · omega
      · omega
    · refine .inr ⟨same, ?_⟩
      rw [dayOfYear, dayOfYear, month]
      omega
  have inYear := dayOfYear_lt hd
  rw [toDays_eq, toDays_eq]
  rcases years with earlier | ⟨same, earlier⟩
  · have := daysBeforeYear_mono earlier
    omega
  · rw [same]
    omega

/-- Any two dates are in order. -/
theorem before_or_eq_or_before (d e : Date) : d.Before e ∨ d = e ∨ e.Before d := by
  obtain ⟨dy, dm, dd⟩ := d
  obtain ⟨ey, em, ed⟩ := e
  simp only [Before, mk.injEq]
  -- the order is lexicographic over three linear ones
  omega

section

variable {d e : Date} (hd : d.isValid = true) (he : e.isValid = true)

include hd he

/-- Dates are ordered as their numbers. -/
theorem before_of_toDays_lt (h : d.toDays < e.toDays) : d.Before e := by
  rcases before_or_eq_or_before d e with before | rfl | after
  · exact before
  · omega
  · have := after.toDays_lt he hd
    omega

/-- No two dates have one number. -/
theorem eq_of_toDays_eq (h : d.toDays = e.toDays) : d = e := by
  rcases before_or_eq_or_before d e with before | same | after
  · have := before.toDays_lt hd he
    omega
  · exact same
  · have := after.toDays_lt he hd
    omega

end

end Date

/-! ## The date of a day -/

/-- Days of an era before a year of it, counted from March. -/
def daysBeforeYearOfEra (year : Nat) : Nat := 365 * year + year / 4 - year / 100 + year / 400

/-- From year zero on the days can be counted in natural numbers. -/
theorem daysBeforeYear_natCast (year : Nat) : daysBeforeYear year = daysBeforeYearOfEra year := by
  unfold daysBeforeYear daysBeforeYearOfEra
  omega

/-- What is left of the days of an era when its leap days are taken out. -/
def withoutLeapDays (day : Nat) : Nat := day - day / 1460 + day / 36524 - day / 146096

/-- The later the day, the more days are left.  Only the last day of an era breaks the pattern of the three
    quotients, so it is taken apart. -/
theorem withoutLeapDays_mono {a b : Nat} (h : a ≤ b) (hb : b < 146097) :
    withoutLeapDays a ≤ withoutLeapDays b := by
  have quarters : a - a / 1460 ≤ b - b / 1460 := by omega
  unfold withoutLeapDays
  rcases Nat.lt_or_ge b 146096 with inside | last
  · omega
  · obtain rfl : b = 146096 := by omega
    omega

/-- The first and the last day of every year of an era. -/
theorem withoutLeapDays_bounds : ∀ year < 400,
    365 * year ≤ withoutLeapDays (daysBeforeYearOfEra year) ∧
      withoutLeapDays (daysBeforeYearOfEra (year + 1) - 1) < 365 * (year + 1) := by
  decide +kernel

/-- Dividing what is left by 365 gives the year of the era that the day lies in. -/
theorem yearOfEra_bounds {day : Nat} (h : day < 146097) :
    withoutLeapDays day / 365 < 400 ∧ daysBeforeYearOfEra (withoutLeapDays day / 365) ≤ day ∧
      day < daysBeforeYearOfEra (withoutLeapDays day / 365 + 1) := by
  have last : withoutLeapDays day ≤ withoutLeapDays 146096 := withoutLeapDays_mono (by omega) (by decide)
  have lastIs : withoutLeapDays 146096 = 145999 := by decide
  generalize hy : withoutLeapDays day / 365 = year
  have range : year < 400 := by omega
  refine ⟨range, ?_, ?_⟩
  · rcases Nat.lt_or_ge day (daysBeforeYearOfEra year) with early | late
    · -- a day of an earlier year has too few days left
      have : year ≠ 0 := by
        rintro rfl
        exact absurd early (Nat.not_lt_zero day)
      obtain ⟨before, rfl⟩ := Nat.exists_eq_add_one_of_ne_zero this
      have few := (withoutLeapDays_bounds before (by omega)).2
      have := withoutLeapDays_mono (show day ≤ daysBeforeYearOfEra (before + 1) - 1 by omega) (by
        unfold daysBeforeYearOfEra
        omega)
      omega
    · exact late
  · rcases Nat.lt_or_ge day (daysBeforeYearOfEra (year + 1)) with early | late
    · exact early
    · rcases Nat.lt_or_ge (year + 1) 400 with next | last
      · have many := (withoutLeapDays_bounds (year + 1) next).1
        have := withoutLeapDays_mono late h
        omega
      · obtain rfl : year = 399 := by omega
        exact absurd late (by simp only [daysBeforeYearOfEra]; omega)

namespace Date

/-- The year that begins in March of a day, and the days of it before the day. -/
theorem ofDays_parts (n : Int) : ∃ (year : Int) (day : Nat),
    daysBeforeYear year + day = n + daysToEpoch ∧ daysBeforeYear year + day < daysBeforeYear (year + 1) ∧
      ofDays n =
        { year := if (5 * day + 2) / 153 < 10 then year else year + 1
          month := monthAt ((5 * day + 2) / 153)
          day := day - daysBeforeMonth ((5 * day + 2) / 153) + 1 } := by
  generalize hs : n + daysToEpoch = shifted
  generalize hd : (shifted % daysInEra).toNat = dayOfEra
  have inEra : dayOfEra < 146097 := by
    unfold daysInEra at hd
    omega
  obtain ⟨small, low, high⟩ := yearOfEra_bounds inEra
  generalize hy : withoutLeapDays dayOfEra / 365 = yearOfEra at small low high
  have inside : yearOfEra / 400 = 0 := Nat.div_eq_of_lt small
  -- the days of the year are taken off with the very quotients that the count before it adds
  have day : (daysBeforeYearOfEra yearOfEra : Int)
      + (dayOfEra - (365 * yearOfEra + yearOfEra / 4 - yearOfEra / 100) : Nat) = dayOfEra := by
    unfold daysBeforeYearOfEra at *
    omega
  refine ⟨yearOfEra + shifted / daysInEra * 400,
    dayOfEra - (365 * yearOfEra + yearOfEra / 4 - yearOfEra / 100), ?_, ?_, ?_⟩
  · rw [daysBeforeYear_era, daysBeforeYear_natCast]
    unfold daysInEra at *
    omega
  · have next : (yearOfEra : Int) + shifted / daysInEra * 400 + 1
        = (yearOfEra + 1 : Nat) + shifted / daysInEra * 400 := by omega
    rw [next, daysBeforeYear_era, daysBeforeYear_era, daysBeforeYear_natCast, daysBeforeYear_natCast]
    omega
  · simp only [ofDays, hs, hd]
    unfold withoutLeapDays at hy
    rw [hy]
    rfl

/-- Every day has a date on the calendar. -/
theorem isValid_ofDays (n : Int) : (ofDays n).isValid = true := by
  obtain ⟨year, day, -, inYear, date⟩ := ofDays_parts n
  have february := daysInFebruary_bounds (year + 1)
  rw [daysBeforeYear_add_one] at inYear
  rw [date]
  generalize hm : (5 * day + 2) / 153 = month
  have some : 1 ≤ monthAt month ∧ monthAt month ≤ 12 := by
    unfold monthAt
    split <;> omega
  simp only [isValid, Bool.and_eq_true, decide_eq_true_eq]
  refine ⟨⟨some, by omega⟩, ?_⟩
  -- February is the last month of the year and ends with it; any other ends where the next begins
  rcases Nat.lt_or_ge month 11 with before | last
  · have length := daysBeforeMonth_add_one (if month < 10 then year else year + 1) before
    unfold daysBeforeMonth at *
    omega
  · obtain rfl : month = 11 := by omega
    show day - 337 + 1 ≤ daysInMonth (year + 1) 2
    omega

/-- The number of the date of a day is the number of the day. -/
theorem toDays_ofDays (n : Int) : (ofDays n).toDays = n := by
  obtain ⟨year, day, number, inYear, date⟩ := ofDays_parts n
  have february := daysInFebruary_bounds (year + 1)
  rw [daysBeforeYear_add_one] at inYear
  generalize hm : (5 * day + 2) / 153 = month at date
  have month_le : month < 12 := by omega
  have sameYear : (ofDays n).marchYear = year := by
    rw [date]
    show (if monthAt month ≤ 2 then (if month < 10 then year else year + 1) - 1
      else if month < 10 then year else year + 1) = year
    unfold monthAt
    split <;> split at * <;> omega
  have sameDay : (ofDays n).dayOfYear = day := by
    have index : (monthAt month + 9) % 12 = month := by
      unfold monthAt
      split <;> omega
    rw [date, dayOfYear, index]
    show daysBeforeMonth month + (day - daysBeforeMonth month + 1) - 1 = day
    unfold daysBeforeMonth
    omega
  rw [toDays_eq, sameYear, sameDay]
  omega

/-- **Days are ordered as their dates.** -/
theorem ofDays_before {m n : Int} (h : m < n) : (ofDays m).Before (ofDays n) := by
  refine before_of_toDays_lt (isValid_ofDays m) (isValid_ofDays n) ?_
  rw [toDays_ofDays, toDays_ofDays]
  exact h

/-! ## The day after -/

/-- The day after a day of the calendar. -/
def next (d : Date) : Date :=
  if d.day < daysInMonth d.year d.month then { d with day := d.day + 1 }
  else if d.month < 12 then ⟨d.year, d.month + 1, 1⟩
  else ⟨d.year + 1, 1, 1⟩

/-- The calendar goes on after each of its dates. -/
theorem isValid_next {d : Date} (h : d.isValid = true) : d.next.isValid = true := by
  have months (year : Int) (month : Nat) : 1 ≤ daysInMonth year month := by
    unfold daysInMonth
    split <;> (try split) <;> omega
  have nextMonth := months d.year (d.month + 1)
  have nextYear := months (d.year + 1) 1
  unfold next
  simp only [isValid, Bool.and_eq_true, decide_eq_true_eq] at h ⊢
  split
  · dsimp only
    omega
  · split <;> dsimp only <;> omega

/-- The next day is later. -/
theorem before_next {d : Date} : d.Before d.next := by
  unfold next
  split
  · exact .inr ⟨rfl, .inr ⟨rfl, Nat.lt_succ_self _⟩⟩
  · split
    · exact .inr ⟨rfl, .inl (Nat.lt_succ_self _)⟩
    · exact .inl (Int.lt_succ _)

/-- There is no date between a date and the next. -/
theorem Before.next_le {d e : Date} (hd : d.isValid = true) (he : e.isValid = true) (h : d.Before e) :
    d.next = e ∨ d.next.Before e := by
  obtain ⟨ey, em, ed⟩ := e
  simp only [isValid, Bool.and_eq_true, decide_eq_true_eq] at hd he
  unfold Before next at *
  dsimp only at h
  -- a later date in the same month is not beyond the last day, so the next day exists in the month
  have lastDay : d.year = ey → d.month = em → ed ≤ daysInMonth d.year d.month := by
    rintro rfl rfl
    exact he.2
  split
  · simp only [mk.injEq]
    omega
  · split
    · simp only [mk.injEq]
      omega
    · simp only [mk.injEq]
      omega

/-- **The days follow each other as the dates of the calendar do.** -/
theorem ofDays_add_one (n : Int) : ofDays (n + 1) = (ofDays n).next := by
  have valid := isValid_ofDays n
  have step : (ofDays n).Before (ofDays (n + 1)) := ofDays_before (Int.lt_succ n)
  rcases step.next_le valid (isValid_ofDays (n + 1)) with same | between
  · exact same.symm
  · have low := before_next.toDays_lt valid (isValid_next valid)
    have high := between.toDays_lt (isValid_next valid) (isValid_ofDays (n + 1))
    rw [toDays_ofDays] at low high
    omega

example : ofDays 0 = ⟨1970, 1, 1⟩ := by decide

end Date

end TraceQuery.Time
