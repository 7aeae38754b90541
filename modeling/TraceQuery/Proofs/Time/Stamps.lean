/-
  Bound times: their form and their order.

  1. **The form** (`Stamp`): date and time of day in UTC with six digits of the second, 26 characters.  It
     stands for a whole number of microseconds since 1970-01-01T00:00:00 UTC.
  2. **The order** (`Stamp.text_lt_iff`, `Stamp.text_inj`): stamps are ordered as texts as they are in time.
     The first field in which two texts differ is the first in which the times do, since every field has its
     full width.
  3. **Writing** (`Instant.exists_stamp`): an instant of a year of four digits is written as the stamp of its
     whole microseconds.
-/
import TraceQuery.Proofs.Time.Calendar
import TraceQuery.Proofs.Time.Timestamps

namespace TraceQuery.Time

/-! ## The form -/

/-- A date and a time of day in UTC, to the microsecond. -/
structure Stamp where
  date : Date
  onCalendar : date.isValid = true
  fourDigits : 0 ≤ date.year ∧ date.year ≤ 9999
  hour : Nat
  minute : Nat
  second : Nat
  micro : Nat
  inDay : hour ≤ 23
  inHour : minute ≤ 59
  inMinute : second ≤ 59
  inSecond : micro < 1000000

namespace Stamp

variable (s t : Stamp)

/-- The time of day, with colons between its fields and a point before the microseconds. -/
def clock : List Char :=
  padded 2 s.hour ++ ':' :: (padded 2 s.minute ++ ':' :: (padded 2 s.second ++ '.' :: padded 6 s.micro))

/-- Date and time of day with a space between them, every field at its full width. -/
def chars : List Char :=
  padded 4 s.date.year.toNat ++
    '-' :: (padded 2 s.date.month ++ '-' :: (padded 2 s.date.day ++ ' ' :: s.clock))

/-- The stamp as a text. -/
def text : String := String.ofList s.chars

/-- Whole microseconds since 1970-01-01T00:00:00 UTC. -/
def micros : Int :=
  (s.date.toDays * 86400 + s.hour * 3600 + s.minute * 60 + s.second) * 1000000 + s.micro

/-- The bounds of the clock together, as arithmetic wants them. -/
theorem clock_bounds : s.hour ≤ 23 ∧ s.minute ≤ 59 ∧ s.second ≤ 59 ∧ s.micro < 1000000 :=
  ⟨s.inDay, s.inHour, s.inMinute, s.inSecond⟩

/-- Every stamp has 26 characters. -/
theorem length_text : s.text.length = 26 := by
  -- a width holds only if the value fits, so the bounds of each field go in
  obtain ⟨month, day⟩ := Date.day_lt_hundred s.onCalendar
  have := s.fourDigits
  have := s.clock_bounds
  rw [text, String.length_ofList]
  simp only [chars, clock, List.length_append, List.length_cons]
  rw [length_padded (by decide) (by omega), length_padded (by decide) month, length_padded (by decide) day,
    length_padded (by decide) (by omega), length_padded (by decide) (by omega),
    length_padded (by decide) (by omega), length_padded (by decide) s.inSecond]

/-! ## The order -/

/-- Fields of one width in front of a separator, compared. -/
theorem field_lt_iff {width m n : Nat} {c : Char} {us vs : List Char} (positive : 0 < width)
    (hm : m < 10 ^ width) (hn : n < 10 ^ width) :
    padded width m ++ c :: us < padded width n ++ c :: vs ↔ m < n ∨ m = n ∧ us < vs := by
  -- the fields are equally long, so the separators meet
  rw [append_lt_append_iff ((length_padded positive hm).trans (length_padded positive hn).symm),
    padded_lt_iff positive hm hn, padded_inj, List.cons_lt_cons_iff]
  simp

/-- Times of day are ordered field by field. -/
theorem clock_lt_iff : s.clock < t.clock ↔ s.hour < t.hour ∨ s.hour = t.hour ∧ (s.minute < t.minute ∨
    s.minute = t.minute ∧ (s.second < t.second ∨ s.second = t.second ∧ s.micro < t.micro)) := by
  have := s.clock_bounds
  have := t.clock_bounds
  rw [clock, clock, field_lt_iff (by decide) (by omega) (by omega),
    field_lt_iff (by decide) (by omega) (by omega), field_lt_iff (by decide) (by omega) (by omega),
    padded_lt_iff (by decide) s.inSecond t.inSecond]

/-- Stamps are ordered by date and then by the time of day. -/
theorem chars_lt_iff : s.chars < t.chars ↔ s.date.Before t.date ∨ s.date = t.date ∧ s.clock < t.clock := by
  obtain ⟨monthS, dayS⟩ := Date.day_lt_hundred s.onCalendar
  obtain ⟨monthT, dayT⟩ := Date.day_lt_hundred t.onCalendar
  have yearS := s.fourDigits
  have yearT := t.fourDigits
  rw [chars, chars, field_lt_iff (by decide) (by omega) (by omega), field_lt_iff (by decide) monthS monthT,
    field_lt_iff (by decide) dayS dayT]
  have same : s.date = t.date ↔
      s.date.year = t.date.year ∧ s.date.month = t.date.month ∧ s.date.day = t.date.day := by
    rw [Date.mk.injEq]
  have earlierYear : s.date.year.toNat < t.date.year.toNat ↔ s.date.year < t.date.year := by omega
  have sameYear : s.date.year.toNat = t.date.year.toNat ↔ s.date.year = t.date.year := by omega
  rw [same, Date.Before, earlierYear, sameYear]
  simp only [and_or_left, or_assoc, and_assoc]

variable {s t}

/-- An earlier time has the smaller text. -/
theorem chars_lt_of_micros_lt (h : s.micros < t.micros) : s.chars < t.chars := by
  rw [chars_lt_iff, clock_lt_iff]
  have := s.clock_bounds
  have := t.clock_bounds
  unfold micros at h
  -- a day has fewer microseconds than lie between two days, so the date decides first
  rcases Int.lt_trichotomy s.date.toDays t.date.toDays with earlier | same | later
  · exact .inl (Date.before_of_toDays_lt s.onCalendar t.onCalendar earlier)
  · exact .inr ⟨Date.eq_of_toDays_eq s.onCalendar t.onCalendar same, by omega⟩
  · omega

theorem chars_eq_of_micros_eq (h : s.micros = t.micros) : s.chars = t.chars := by
  have := s.clock_bounds
  have := t.clock_bounds
  unfold micros at h
  have date : s.date = t.date := Date.eq_of_toDays_eq s.onCalendar t.onCalendar (by omega)
  rw [date] at h
  have clock : s.hour = t.hour ∧ s.minute = t.minute ∧ s.second = t.second ∧ s.micro = t.micro := by omega
  obtain ⟨hour, minute, second, micro⟩ := clock
  rw [chars, chars, Stamp.clock, Stamp.clock, date, hour, minute, second, micro]

/-- Stamps are ordered as texts as they are in time. -/
theorem text_lt_iff : s.text < t.text ↔ s.micros < t.micros := by
  rw [text, text, String.lt_iff, String.toList_ofList, String.toList_ofList]
  constructor
  · intro less
    rcases Int.lt_trichotomy s.micros t.micros with earlier | same | later
    · exact earlier
    · rw [chars_eq_of_micros_eq same] at less
      exact absurd less (lt_irrefl _)
    · exact absurd less (not_lt_of_gt (chars_lt_of_micros_lt later))
  · exact chars_lt_of_micros_lt

/-- Stamps with one text are of one time, and the other way round. -/
theorem text_inj : s.text = t.text ↔ s.micros = t.micros := by
  constructor
  · intro same
    rcases Int.lt_trichotomy s.micros t.micros with earlier | equal | later
    · have := text_lt_iff.mpr earlier
      rw [same] at this
      exact absurd this (String.lt_irrefl _)
    · exact equal
    · have := text_lt_iff.mpr later
      rw [same] at this
      exact absurd this (String.lt_irrefl _)
  · intro equal
    rw [text, text, chars_eq_of_micros_eq equal]

end Stamp

/-! ## Writing -/

/-- The year of an instant in UTC. -/
def Instant.year (i : Instant) : Int := (Date.ofDays (i.seconds / secondsInDay)).year

/-- An instant is written as the stamp of its whole microseconds. -/
theorem Instant.exists_stamp {i : Instant} (plain : i.nanos < nanosInSecond)
    (fourDigits : 0 ≤ i.year ∧ i.year ≤ 9999) :
    ∃ s : Stamp, i.write = s.text ∧ s.micros = i.seconds * 1000000 + (i.nanos / 1000 : Nat) := by
  have day : i.seconds / secondsInDay * 86400 + (i.seconds % secondsInDay).toNat = i.seconds := by
    unfold secondsInDay
    omega
  have inDay : (i.seconds % secondsInDay).toNat < 86400 := by
    unfold secondsInDay
    omega
  have valid := Date.isValid_ofDays (i.seconds / secondsInDay)
  have number := Date.toDays_ofDays (i.seconds / secondsInDay)
  have whole : i.nanos / nanosInSecond = 0 := Nat.div_eq_of_lt plain
  have fraction : i.nanos % nanosInSecond = i.nanos := Nat.mod_eq_of_lt plain
  -- nanoseconds below a billion are cut to microseconds below a million
  have inSecond : i.nanos / 1000 < 1000000 := by
    unfold nanosInSecond at plain
    omega
  unfold year at fourDigits
  rw [write]
  generalize (i.seconds % secondsInDay).toNat = second at *
  generalize Date.ofDays (i.seconds / secondsInDay) = date at *
  refine ⟨⟨date, valid, fourDigits, second / 3600, second / 60 % 60, second % 60, i.nanos / 1000, by omega,
    by omega, by omega, inSecond⟩, ?_, ?_⟩
  · rw [dateChars, yearChars_of_le fourDigits, timeChars, whole, fraction, Stamp.text]
    simp [Stamp.chars, Stamp.clock]
  · rw [Stamp.micros, number]
    dsimp only
    omega

/-- A timestamp that is not second 60 is written as the stamp of its time in whole microseconds. -/
theorem Timestamp.exists_stamp (t : Timestamp) (plain : t.second ≠ 60)
    (fourDigits : 0 ≤ t.instant.year ∧ t.instant.year ≤ 9999) :
    ∃ s : Stamp, t.instant.write = s.text ∧ s.micros = t.micros := by
  rw [t.micros_eq plain]
  exact Instant.exists_stamp (t.nanos_lt plain) fourDigits

/-- A later time has no fewer whole microseconds. -/
theorem Timestamp.micros_mono {a b : Timestamp} (h : a.time ≤ b.time) : a.micros ≤ b.micros :=
  Int.floor_le_floor (mul_le_mul_of_nonneg_right h (Nat.cast_nonneg _))

end TraceQuery.Time
