/-
  Timestamps: what they look like and which instant they denote.

  1. **The form** (`Timestamp`): a date of four-digit year on the calendar, a separator, a time of day with
     any number of digits after the second, and the offset of local time from UTC.  Every field but the
     fraction has its full width.  `T` may be small or a space, `Z` may be small, the minus sign of an offset
     may be the hyphen or U+2212, and second 60 may stand in any minute.
  2. **The time** (`Timestamp.time`): seconds since 1970-01-01T00:00:00 UTC, exactly.
  3. **The reader** (`Instant.read_eq_some_iff`): it takes the timestamps and nothing else.  What it gives
     is the time cut off to whole nanoseconds (`Timestamp.floor_instant`), unless the second is 60.
-/
import Mathlib.Data.Rat.Floor
import Mathlib.Tactic.FieldSimp
import Mathlib.Tactic.Linarith
import Mathlib.Tactic.NormNum
import TraceQuery.Proofs.Time.Fields

namespace TraceQuery.Time

open TraceQuery.Text (isDigit digitsValue)

/-! ## The form of a timestamp -/

/-- The offset of local time from UTC, as it is written. -/
inductive Offset where
  | utc (letter : Char) (isLetter : letter ∈ ['Z', 'z'])
  | ahead (hours minutes : Nat) (inDay : hours ≤ 23) (inHour : minutes ≤ 59)
  | behind (sign : Char) (isMinus : sign ∈ minusSigns) (hours minutes : Nat)
      (inDay : hours ≤ 23) (inHour : minutes ≤ 59)

namespace Offset

/-- Hours and minutes of an offset. -/
def distance (hours minutes : Nat) : List Char := padded 2 hours ++ ':' :: padded 2 minutes

/-- The offset as it is written: a letter, or a sign with hours and minutes. -/
def chars : Offset → List Char
  | utc letter _ => [letter]
  | ahead hours minutes _ _ => '+' :: distance hours minutes
  | behind sign _ hours minutes _ _ => sign :: distance hours minutes

/-- The seconds that local time is ahead of UTC. -/
def seconds : Offset → Int
  | utc _ _ => 0
  | ahead hours minutes _ _ => hours * 3600 + minutes * 60
  | behind _ _ hours minutes _ _ => -(hours * 3600 + minutes * 60)

end Offset

/-- The digits of a fraction behind their point; no digits are no fraction. -/
def fractionChars : List Char → List Char
  | [] => []
  | digits => '.' :: digits

/-- A timestamp as it is written. -/
structure Timestamp where
  date : Date
  onCalendar : date.isValid = true
  fourDigits : 0 ≤ date.year ∧ date.year ≤ 9999
  separator : Char
  separates : separator ∈ ['T', 't', ' ']
  hour : Nat
  minute : Nat
  second : Nat
  inDay : hour ≤ 23
  inHour : minute ≤ 59
  inMinute : second ≤ 60
  fraction : List Char
  decimal : ∀ c ∈ fraction, isDigit c = true
  offset : Offset

/-- The time of day, with its fraction of a second. -/
def clockChars (hour minute second : Nat) (fraction : List Char) : List Char :=
  padded 2 hour ++ ':' :: (padded 2 minute ++ ':' :: (padded 2 second ++ fractionChars fraction))

namespace Timestamp

variable (t : Timestamp)

/-- The characters of a timestamp. -/
def chars : List Char :=
  dateChars t.date ++
    t.separator :: (clockChars t.hour t.minute t.second t.fraction ++ t.offset.chars)

/-- The timestamp as a text. -/
def text : String := String.ofList t.chars

/-- The value of the fraction of a second. -/
def fractionValue : ℚ := digitsValue 0 t.fraction / 10 ^ t.fraction.length

/-- Whole seconds since 1970-01-01T00:00:00 UTC. -/
def wholeSeconds : Int :=
  t.date.toDays * 86400 + t.hour * 3600 + t.minute * 60 + t.second - t.offset.seconds

/-- Seconds since 1970-01-01T00:00:00 UTC. -/
def time : ℚ := t.wholeSeconds + t.fractionValue

/-- The instant of a timestamp; second 60 is one that is inserted behind second 59. -/
def instant : Instant :=
  if t.second = 60 then ⟨t.wholeSeconds - 1, nanosInSecond + fractionNanos t.fraction⟩
  else ⟨t.wholeSeconds, fractionNanos t.fraction⟩

end Timestamp

/-! ## Reading the parts -/

section

variable {cs rest : List Char}

/-- One of the allowed characters is taken from the front, and nothing else. -/
theorem takeOneOf_eq_some_iff {allowed : List Char} :
    takeOneOf allowed cs = some rest ↔ ∃ c ∈ allowed, cs = c :: rest := by
  cases cs with
  | nil => simp [takeOneOf]
  | cons c cs =>
    simp only [takeOneOf, List.contains_eq_mem, decide_eq_true_eq, Option.ite_none_right_eq_some,
      Option.some.injEq, List.cons.injEq]
    constructor
    · rintro ⟨listed, rfl⟩
      exact ⟨c, listed, rfl, rfl⟩
    · rintro ⟨d, listed, rfl, rfl⟩
      exact ⟨listed, rfl⟩

/-- A year of four digits has no sign. -/
theorem yearChars_of_le {year : Int} (h : 0 ≤ year ∧ year ≤ 9999) :
    yearChars year = padded 4 year.toNat := if_pos h

/-- The calendar has no day of three digits. -/
theorem Date.day_lt_hundred {d : Date} (h : d.isValid = true) : d.month < 100 ∧ d.day < 100 := by
  simp only [Date.isValid, Bool.and_eq_true, decide_eq_true_eq] at h
  have : daysInMonth d.year d.month ≤ 31 := by
    unfold daysInMonth
    split <;> (try split) <;> omega
  omega

/-- A date is taken exactly as it is written, and only if the calendar has it. -/
theorem takeDate_eq_some_iff {d : Date} :
    takeDate cs = some (d, rest)
      ↔ d.isValid = true ∧ (0 ≤ d.year ∧ d.year ≤ 9999) ∧ cs = dateChars d ++ rest := by
  -- the steps of the reader become a chain of equations, one for each field and dash
  simp only [takeDate, bind, Option.bind_eq_some_iff, Prod.exists,
    takeNumber_eq_some_iff (by decide : 0 < 4), takeNumber_eq_some_iff (by decide : 0 < 2),
    takeOneOf_eq_some_iff, List.mem_singleton, exists_eq_left, Option.ite_none_right_eq_some,
    Option.some.injEq, Prod.mk.injEq]
  constructor
  · rintro ⟨year, _, ⟨small, rfl⟩, _, rfl, month, _, ⟨-, rfl⟩, _, rfl, day, _, ⟨-, rfl⟩, valid, rfl, rfl⟩
    have range : (0 : Int) ≤ Int.ofNat year ∧ Int.ofNat year ≤ 9999 := by
      constructor
      · exact Int.natCast_nonneg year
      · exact Int.ofNat_le.mpr (Nat.le_of_lt_succ small)
    refine ⟨valid, range, ?_⟩
    rw [dateChars, yearChars_of_le range]
    simp
  · rintro ⟨valid, range, rfl⟩
    obtain ⟨month, day⟩ := Date.day_lt_hundred valid
    have year : Int.ofNat d.year.toNat = d.year := Int.toNat_of_nonneg range.1
    rw [dateChars, yearChars_of_le range]
    refine ⟨d.year.toNat, '-' :: (padded 2 d.month ++ '-' :: (padded 2 d.day ++ rest)),
      ⟨by omega, by simp⟩, _, rfl, d.month, _, ⟨month, rfl⟩, _, rfl, d.day, _, ⟨day, rfl⟩, ?_⟩
    rw [year]
    exact ⟨valid, rfl, rfl⟩

/-- The digits of a fraction are all the digits there are. -/
theorem takeFraction_of_some {nanos : Nat} (h : takeFraction cs = some (nanos, rest)) :
    ∃ digits, (∀ c ∈ digits, isDigit c = true) ∧ cs = fractionChars digits ++ rest ∧
      nanos = fractionNanos digits := by
  unfold takeFraction at h
  split at h
  · rename_i cs
    simp only [Option.ite_none_left_eq_some, Option.some.injEq, Prod.mk.injEq] at h
    obtain ⟨nonempty, rfl, rfl⟩ := h
    refine ⟨cs.takeWhile isDigit, fun c hc => List.mem_takeWhile_imp hc, ?_, rfl⟩
    have point : fractionChars (cs.takeWhile isDigit) = '.' :: cs.takeWhile isDigit := by
      unfold fractionChars
      split
      · rename_i empty
        exact absurd (by rw [empty]; rfl) nonempty
      · rfl
    rw [point, List.cons_append, List.takeWhile_append_dropWhile]
  · obtain ⟨rfl, rfl⟩ := Prod.mk.inj (Option.some.inj h)
    exact ⟨[], by simp, rfl, rfl⟩

/-- The digits behind a point are taken up to what stops them. -/
theorem takeFraction_append {digits : List Char} (decimal : ∀ c ∈ digits, isDigit c = true)
    (stop : ∀ c ∈ rest.head?, isDigit c = false ∧ c ≠ '.') :
    takeFraction (fractionChars digits ++ rest) = some (fractionNanos digits, rest) := by
  cases digits with
  | nil =>
    show takeFraction rest = some (fractionNanos [], rest)
    unfold takeFraction
    split
    · exact absurd rfl (stop '.' rfl).2
    · rfl
  | cons d digits =>
    show takeFraction ('.' :: ((d :: digits) ++ rest)) = _
    have run : ((d :: digits) ++ rest).takeWhile isDigit = d :: digits := by
      rw [List.takeWhile_append_of_pos decimal]
      cases rest with
      | nil => simp
      | cons c rest => simp [(stop c rfl).1]
    have behind : ((d :: digits) ++ rest).dropWhile isDigit = rest := by
      rw [List.dropWhile_append_of_pos decimal]
      cases rest with
      | nil => simp
      | cons c rest => simp [(stop c rfl).1]
    simp only [takeFraction, run, behind]
    rfl

/-- The second of the day and the nanoseconds of a clock. -/
def clockReading (hour minute second : Nat) (fraction : List Char) : Nat × Nat :=
  let minutes := hour * 60 + minute
  if second = 60 then (minutes * 60 + 59, fractionNanos fraction + nanosInSecond)
  else (minutes * 60 + second, fractionNanos fraction)

/-- What is taken as a time of day is a clock. -/
theorem takeTime_of_some {reading : Nat × Nat} (h : takeTime cs = some (reading, rest)) :
    ∃ hour minute second fraction, (hour ≤ 23 ∧ minute ≤ 59 ∧ second ≤ 60) ∧
      (∀ c ∈ fraction, isDigit c = true) ∧ cs = clockChars hour minute second fraction ++ rest ∧
      reading = clockReading hour minute second fraction := by
  simp only [takeTime, bind, Option.bind_eq_some_iff, Prod.exists,
    takeNumber_eq_some_iff (by decide : 0 < 2), takeOneOf_eq_some_iff, List.mem_singleton, exists_eq_left,
    Option.ite_none_right_eq_some] at h
  obtain ⟨hour, _, ⟨-, rfl⟩, _, rfl, minute, _, ⟨-, rfl⟩, _, rfl, second, _, ⟨-, rfl⟩, nanos, _, tail,
    bounds, result⟩ := h
  obtain ⟨fraction, decimal, rfl, rfl⟩ := takeFraction_of_some tail
  refine ⟨hour, minute, second, fraction, bounds, decimal, ?_⟩
  rw [clockReading]
  split at result
  · -- second 60 is told apart by the reader, and so by the reading
    rename_i leap
    obtain ⟨rfl, rfl⟩ := Prod.mk.inj (Option.some.inj result)
    exact ⟨by simp [clockChars], (if_pos leap).symm⟩
  · rename_i plain
    obtain ⟨rfl, rfl⟩ := Prod.mk.inj (Option.some.inj result)
    exact ⟨by simp [clockChars], (if_neg plain).symm⟩

/-- A clock is taken as what it says, if nothing behind it would be a digit more. -/
theorem takeTime_append {hour minute second : Nat} {fraction : List Char}
    (bounds : hour ≤ 23 ∧ minute ≤ 59 ∧ second ≤ 60) (decimal : ∀ c ∈ fraction, isDigit c = true)
    (stop : ∀ c ∈ rest.head?, isDigit c = false ∧ c ≠ '.') :
    takeTime (clockChars hour minute second fraction ++ rest)
      = some (clockReading hour minute second fraction, rest) := by
  simp only [takeTime, bind, Option.bind_eq_some_iff, Prod.exists,
    takeNumber_eq_some_iff (by decide : 0 < 2), takeOneOf_eq_some_iff, List.mem_singleton, exists_eq_left,
    Option.ite_none_right_eq_some]
  refine ⟨hour, ':' :: (padded 2 minute ++ ':' :: (padded 2 second ++ (fractionChars fraction ++ rest))),
    ⟨by omega, by simp [clockChars]⟩, _, rfl, minute, _, ⟨by omega, rfl⟩, _, rfl, second, _, ⟨by omega, rfl⟩,
    _, _, takeFraction_append decimal stop, bounds, ?_⟩
  rw [clockReading]
  split
  · rfl
  · rfl

end

/-! ## Reading the offset -/

namespace Offset

variable (o : Offset)

/-- No offset begins like the end of a fraction. -/
theorem head_chars : ∀ c ∈ o.chars.head?, isDigit c = false ∧ c ≠ '.' := by
  cases o with
  | utc letter isLetter =>
    rintro _ ⟨⟩
    rcases List.mem_pair.mp isLetter with rfl | rfl
    · exact ⟨by decide, by decide⟩
    · exact ⟨by decide, by decide⟩
  | ahead hours minutes =>
    rintro _ ⟨⟩
    decide
  | behind sign isMinus hours minutes =>
    rintro _ ⟨⟩
    rcases List.mem_pair.mp isMinus with rfl | rfl
    · exact ⟨by decide, by decide⟩
    · exact ⟨by decide, by decide⟩

/-- An offset is read as the distance that it was written for. -/
theorem readOffset_chars : readOffset o.chars = some o.seconds := by
  cases o with
  | utc letter isLetter =>
    have : letter = 'Z' ∨ letter = 'z' := by simpa using isLetter
    exact if_pos this
  | ahead hours minutes inDay inHour =>
    simp only [chars, readOffset, seconds, bind]
    rw [if_neg (by decide), if_pos (.inl trivial)]
    simp only [Option.bind_eq_some_iff, Prod.exists, takeNumber_eq_some_iff (by decide : 0 < 2),
      takeOneOf_eq_some_iff, List.mem_singleton, exists_eq_left]
    refine ⟨hours, _, ⟨by omega, rfl⟩, _, rfl, minutes, [], ⟨by omega, (List.append_nil _).symm⟩, ?_⟩
    rw [if_pos ⟨inDay, inHour, rfl⟩, if_pos trivial]
    simp
  -- a minus sign is neither of the letters nor a plus, so the third branch is reached
  | behind sign isMinus hours minutes inDay inHour =>
    have unlike : ¬ (sign = 'Z' ∨ sign = 'z') ∧ sign ≠ '+' := by
      rcases List.mem_pair.mp isMinus with rfl | rfl
      · exact ⟨by decide, by decide⟩
      · exact ⟨by decide, by decide⟩
    simp only [chars, readOffset, seconds, bind]
    rw [if_neg unlike.1, if_pos (.inr (List.contains_iff_mem.mpr isMinus))]
    simp only [Option.bind_eq_some_iff, Prod.exists, takeNumber_eq_some_iff (by decide : 0 < 2),
      takeOneOf_eq_some_iff, List.mem_singleton, exists_eq_left]
    refine ⟨hours, _, ⟨by omega, rfl⟩, _, rfl, minutes, [], ⟨by omega, (List.append_nil _).symm⟩, ?_⟩
    rw [if_pos ⟨inDay, inHour, rfl⟩, if_neg unlike.2]
    simp

end Offset

/-- What is read as an offset was written as one. -/
theorem exists_offset {cs : List Char} {seconds : Int} (h : readOffset cs = some seconds) :
    ∃ o : Offset, o.chars = cs ∧ o.seconds = seconds := by
  cases cs with
  | nil => cases h
  | cons sign cs =>
    simp only [readOffset, bind] at h
    split at h
    · rename_i letter
      simp only [List.isEmpty_iff, Option.ite_none_right_eq_some, Option.some.injEq] at h
      obtain ⟨rfl, rfl⟩ := h
      exact ⟨.utc sign (by simpa using letter), rfl, rfl⟩
    · split at h
      · rename_i isSign
        simp only [Option.bind_eq_some_iff, Prod.exists, takeNumber_eq_some_iff (by decide : 0 < 2),
          takeOneOf_eq_some_iff, List.mem_singleton, exists_eq_left, Option.ite_none_right_eq_some,
          List.isEmpty_iff, Option.some.injEq] at h
        obtain ⟨hours, _, ⟨-, rfl⟩, _, rfl, minutes, _, ⟨-, rfl⟩, ⟨inDay, inHour, rfl⟩, rfl⟩ := h
        rw [List.append_nil]
        split
        · rename_i plus
          subst plus
          exact ⟨.ahead hours minutes inDay inHour, rfl, by simp [Offset.seconds]⟩
        · rename_i notPlus
          have isMinus : sign ∈ minusSigns := List.contains_iff_mem.mp (isSign.resolve_left notPlus)
          exact ⟨.behind sign isMinus hours minutes inDay inHour, rfl, by simp [Offset.seconds]⟩
      · cases h

/-! ## The reader of timestamps -/

namespace Timestamp

variable (t : Timestamp)

/-- A timestamp is read as its instant. -/
theorem read_chars : Instant.read t.text = some t.instant := by
  have date (rest : List Char) : takeDate (dateChars t.date ++ rest) = some (t.date, rest) :=
    takeDate_eq_some_iff.mpr ⟨t.onCalendar, t.fourDigits, rfl⟩
  have clock := takeTime_append ⟨t.inDay, t.inHour, t.inMinute⟩ t.decimal t.offset.head_chars
  simp only [Instant.read, text, chars, String.toList_ofList, bind, date, Option.bind_some,
    takeOneOf_eq_some_iff.mpr ⟨t.separator, t.separates, rfl⟩, clock, t.offset.readOffset_chars]
  rw [clockReading, instant, wholeSeconds]
  -- second 60 is one second back and a billion nanoseconds more
  split
  · simp [secondsInDay]
    omega
  · simp [secondsInDay]
    omega

end Timestamp

/-- What can be read is a timestamp. -/
theorem exists_timestamp {text : String} {i : Instant} (h : Instant.read text = some i) :
    ∃ t : Timestamp, t.text = text := by
  simp only [Instant.read, bind, Option.bind_eq_some_iff, Prod.exists, takeDate_eq_some_iff,
    takeOneOf_eq_some_iff] at h
  obtain ⟨date, _, ⟨onCalendar, fourDigits, spelled⟩, _, ⟨separator, separates, rfl⟩, second, nanos, _, clock,
    offset, tail, -⟩ := h
  obtain ⟨hour, minute, second, fraction, ⟨inDay, inHour, inMinute⟩, decimal, rfl, -⟩ := takeTime_of_some clock
  obtain ⟨offset, rfl, -⟩ := exists_offset tail
  refine ⟨⟨date, onCalendar, fourDigits, separator, separates, hour, minute, second, inDay, inHour, inMinute,
    fraction, decimal, offset⟩, ?_⟩
  rw [← String.ofList_toList (s := text), spelled]
  rfl

/-- **The reader takes the timestamps**, each for its instant, and nothing else. -/
theorem Instant.read_eq_some_iff {text : String} {i : Instant} :
    Instant.read text = some i ↔ ∃ t : Timestamp, t.text = text ∧ t.instant = i := by
  constructor
  · intro h
    obtain ⟨t, rfl⟩ := exists_timestamp h
    rw [t.read_chars] at h
    exact ⟨t, rfl, Option.some.inj h⟩
  · rintro ⟨t, rfl, rfl⟩
    exact t.read_chars

/-! ## Instants and exact time -/

/-- The nanoseconds of a fraction, however many digits it has: its value in nanoseconds, rounded down. -/
theorem fractionNanos_eq {digits : List Char} (decimal : ∀ c ∈ digits, isDigit c = true) :
    fractionNanos digits = digitsValue 0 digits * 10 ^ 9 / 10 ^ digits.length := by
  have positive (n : Nat) : 0 < 10 ^ n := Nat.pow_pos (by decide)
  -- up to nine digits are moved up to nine places; of more, nine count
  rcases Nat.le_total digits.length 9 with short | long
  · have shift : 10 ^ 9 = 10 ^ (9 - digits.length) * 10 ^ digits.length := by
      rw [← pow_add, Nat.sub_add_cancel short]
    rw [fractionNanos, List.take_of_length_le short, shift, ← Nat.mul_assoc,
      Nat.mul_div_cancel _ (positive _)]
    rfl
  · -- what stands behind the ninth digit is less than one unit of it
    have behind : digitsValue 0 (digits.drop 9) < 10 ^ (digits.length - 9) := by
      have := digitsValue_lt (fun c hc => decimal c (List.mem_of_mem_drop hc) : ∀ c ∈ digits.drop 9, _)
      rwa [List.length_drop] at this
    have value : digitsValue 0 digits
        = digitsValue 0 (digits.take 9) * 10 ^ (digits.length - 9) + digitsValue 0 (digits.drop 9) := by
      rw [← List.length_drop, ← digitsValue_eq_add, ← Text.digitsValue_append, List.take_append_drop]
    have shift : 10 ^ digits.length = 10 ^ (digits.length - 9) * 10 ^ 9 := by
      rw [← pow_add, Nat.sub_add_cancel long]
    have counted : (digits.take 9).length = 9 := by
      rw [List.length_take]
      omega
    rw [shift, Nat.mul_div_mul_right _ _ (positive 9), value, Nat.mul_comm, Nat.mul_add_div (positive _),
      Nat.div_eq_of_lt behind, fractionNanos, counted]
    exact Nat.mul_one _

/-- A fraction is less than a second. -/
theorem fractionNanos_lt {digits : List Char} (decimal : ∀ c ∈ digits, isDigit c = true) :
    fractionNanos digits < nanosInSecond := by
  rw [fractionNanos_eq decimal, Nat.div_lt_iff_lt_mul (Nat.pow_pos (by decide)), nanosInSecond]
  have := digitsValue_lt decimal
  omega

namespace Timestamp

variable (t : Timestamp)

/-- The time in whole units, of which there are `scale` in a second. -/
theorem floor_time_mul (scale : Nat) :
    ⌊t.time * scale⌋ = t.wholeSeconds * scale
      + (digitsValue 0 t.fraction * scale / 10 ^ t.fraction.length : Nat) := by
  have parts : t.time * scale = ((t.wholeSeconds * scale : Int) : ℚ)
      + ((digitsValue 0 t.fraction * scale : Nat) : ℚ) / ((10 ^ t.fraction.length : Nat) : ℚ) := by
    rw [time, fractionValue]
    push_cast
    ring
  -- whole seconds are whole in any unit, so only the fraction is cut
  rw [parts, Int.floor_intCast_add, Rat.floor_natCast_div_natCast, Int.natCast_div]

/-- Whole microseconds since 1970-01-01T00:00:00 UTC. -/
def micros : Int := ⌊t.time * (1000000 : Nat)⌋

variable (plain : t.second ≠ 60)

include plain

/-- Outside second 60 the instant has the seconds and the fraction of the timestamp. -/
theorem instant_of_plain : t.instant = ⟨t.wholeSeconds, fractionNanos t.fraction⟩ := if_neg plain

/-- The instant is the time in whole nanoseconds. -/
theorem floor_instant :
    ⌊t.time * (1000000000 : Nat)⌋ = t.instant.seconds * 1000000000 + t.instant.nanos := by
  rw [floor_time_mul, t.instant_of_plain plain, fractionNanos_eq t.decimal]
  rfl

theorem nanos_lt : t.instant.nanos < nanosInSecond := by
  rw [t.instant_of_plain plain]
  exact fractionNanos_lt t.decimal

/-- Whole microseconds can be had from whole nanoseconds: cutting in two steps cuts no more than in one. -/
theorem micros_eq : t.micros = t.instant.seconds * 1000000 + (t.instant.nanos / 1000 : Nat) := by
  have finer : digitsValue 0 t.fraction * 10 ^ 9 / 10 ^ t.fraction.length / 1000
      = digitsValue 0 t.fraction * 1000000 / 10 ^ t.fraction.length := by
    rw [Nat.div_div_eq_div_mul, show 10 ^ 9 = 1000000 * 1000 from rfl, ← Nat.mul_assoc,
      Nat.mul_div_mul_right _ _ (by decide)]
  rw [micros, floor_time_mul, t.instant_of_plain plain, fractionNanos_eq t.decimal, finer]
  rfl

end Timestamp

end TraceQuery.Time
