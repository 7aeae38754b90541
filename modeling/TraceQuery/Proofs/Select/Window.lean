/-
  The window that the texts of a request ask for.

  1. **Looking back** (`LooksBack`): blanks around an optional plus sign and digits, of a value from 1 to
     2^32 - 1.  The reader takes these texts and no others (`readLookBack_eq_some_iff`); leading zeros count
     for nothing, and zero, a minus sign and a blank inside are no look-back.
  2. **Two dates** (`Dated`): a text is dated if it is a timestamp.  Two dates are a window whatever else is
     asked for, and the first that is no timestamp is the error (`TimeInput.resolve_of_dates`).
  3. **Anything else** (`TimeInput.resolve_of_missing`): without both dates there is no error, only a
     look-back or no window.

  The two kinds of text are not treated alike: a date that cannot be read is reported, and a look-back
  that cannot be read is as if it were not there.

-/
import TraceQuery.Proofs.Filter.WireForms
import TraceQuery.Proofs.Time.Timestamps
import TraceQuery.Select.TimeRange

namespace TraceQuery

open TraceQuery.Time (Instant Timestamp)

/-! ## Looking back -/

namespace Text

/-- Blanks on either end are all that is cut off. -/
theorem exists_blanks (cs : List Char) : ∃ front back : List Char,
    (∀ c ∈ front ++ back, isBlank c = true) ∧ cs = front ++ trimChars cs ++ back := by
  have split (xs : List Char) : xs = xs.takeWhile isBlank ++ dropBlanks xs :=
    List.takeWhile_append_dropWhile.symm
  have blank (xs : List Char) : ∀ c ∈ xs.takeWhile isBlank, isBlank c = true :=
    fun c hc => List.mem_takeWhile_imp hc
  refine ⟨cs.takeWhile isBlank, ((dropBlanks cs).reverse.takeWhile isBlank).reverse, ?_, ?_⟩
  · intro c hc
    rcases List.mem_append.mp hc with front | back
    · exact blank _ c front
    · exact blank _ c (List.mem_reverse.mp back)
  · have behind : dropBlanks cs
        = trimChars cs ++ ((dropBlanks cs).reverse.takeWhile isBlank).reverse := by
      rw [trimChars, ← List.reverse_append, ← split, List.reverse_reverse]
    rw [List.append_assoc, ← behind, ← split]

theorem dropBlanks_append {front cs : List Char} (blank : ∀ c ∈ front, isBlank c = true) :
    dropBlanks (front ++ cs) = dropBlanks cs := List.dropWhile_append_of_pos blank

/-- What is visible stays when the blanks around it are cut off. -/
theorem trimChars_surrounded {front cs back : List Char} (blank : ∀ c ∈ front ++ back, isBlank c = true)
    (visible : ∀ c ∈ cs, isBlank c = false) : trimChars (front ++ cs ++ back) = cs := by
  have inFront : ∀ c ∈ front, isBlank c = true := fun c hc => blank c (List.mem_append_left back hc)
  have behind : ∀ c ∈ back.reverse, isBlank c = true :=
    fun c hc => blank c (List.mem_append_right front (List.mem_reverse.mp hc))
  have backwards : ∀ c ∈ cs.reverse, isBlank c = false := fun c hc => visible c (List.mem_reverse.mp hc)
  rw [trimChars, List.append_assoc, dropBlanks_append inFront]
  -- without anything visible between them the blanks are cut off in one go
  cases cs with
  | nil =>
    have : dropBlanks back = [] := List.dropWhile_eq_nil_iff.mpr fun c hc => behind c (List.mem_reverse.mpr hc)
    rw [List.nil_append, this]
    rfl
  | cons c rest =>
    rw [List.cons_append, dropBlanks_of_head (visible c List.mem_cons_self), ← List.cons_append,
      List.reverse_append, dropBlanks_append behind, dropBlanks_of_visible backwards, List.reverse_reverse]

/-- What is read digit by digit is made of digits. -/
theorem decimal_of_readDigits {limit start n : Nat} {excess : NumeralFault} {cs : List Char}
    (h : readDigits limit excess start cs = .ok n) : ∀ c ∈ cs, isDigit c = true := by
  induction cs generalizing start with
  | nil => exact fun _ hc => absurd hc List.not_mem_nil
  | cons d rest ih =>
    simp only [readDigits] at h
    split at h
    · cases h
    · rename_i value digit
      split at h
      · cases h
      · intro c hc
        rcases List.mem_cons.mp hc with rfl | later
        · by_contra other
          rw [digitValue?, if_neg other] at digit
          cases digit
        · exact ih h c later

/-- The characters are a numeral without a minus sign. -/
theorem readNat_eq_ok_iff {limit n : Nat} {cs : List Char} :
    readNat limit cs = .ok n ↔
      ∃ t : Numeral, t.sign ≠ .minus ∧ cs = t.sign.chars ++ t.digits ∧ t.magnitude = n ∧ n ≤ limit := by
  -- of a numeral, what is read of its digits is its magnitude, if this is within the limit
  have digits (t : Numeral) : readDigits limit .tooLarge 0 t.digits = .ok n ↔ t.magnitude = n ∧ n ≤ limit := by
    rw [readDigits_decimal t.decimal (Nat.zero_le _), t.digitsValue_digits]
    split
    · rename_i within
      constructor
      · rintro ⟨⟩
        exact ⟨rfl, within⟩
      · rintro ⟨rfl, -⟩
        rfl
    · rename_i beyond
      constructor
      · intro h
        cases h
      · rintro ⟨rfl, within⟩
        exact absurd within beyond
  constructor
  · intro h
    unfold readNat at h
    split at h
    · cases h
    · cases h
    · rename_i ds lone
      have nonempty : ds ≠ [] := by
        rintro rfl
        exact lone rfl
      let t : Numeral := ⟨.plus, ds, nonempty, decimal_of_readDigits h⟩
      exact ⟨t, Sign.noConfusion, rfl, (digits t).mp h⟩
    · rename_i nonempty _ _
      let t : Numeral := ⟨.unsigned, cs, nonempty, decimal_of_readDigits h⟩
      exact ⟨t, Sign.noConfusion, rfl, (digits t).mp h⟩
  · -- the other way round the sign decides where the reader starts to read digits
    rintro ⟨t, unsigned, rfl, value⟩
    have read := (digits t).mpr value
    obtain ⟨c, rest, front, notPlus, -⟩ := t.exists_digit
    rw [front] at read ⊢
    cases sign : t.sign with
    | minus => exact absurd sign unsigned
    | plus => exact read
    | unsigned =>
      show readNat limit (c :: rest) = _
      rw [readNat]
      · exact read
      · exact List.cons_ne_nil c rest
      · exact fun h => notPlus (List.cons.inj h).1
      · exact fun _ h => notPlus (List.cons.inj h).1

end Text

/-- The text asks for a look-back of that many hours. -/
def LooksBack (text : String) (hours : Nat) : Prop :=
  ∃ (front back : List Char) (t : Text.Numeral), (∀ c ∈ front ++ back, Text.isBlank c = true) ∧
    t.sign ≠ .minus ∧ text = String.ofList (front ++ (t.sign.chars ++ t.digits) ++ back) ∧
    t.magnitude = hours ∧ 1 ≤ hours ∧ hours ≤ 4294967295

/-- The reader takes the texts that look back, and gives the hours that they ask for. -/
theorem readLookBack_eq_some_iff {text : String} {hours : Nat} :
    readLookBack text = some hours ↔ LooksBack text hours := by
  have unfolded : readLookBack text = some hours ↔
      Text.readNat 4294967295 (Text.trimChars text.toList) = .ok hours ∧ 1 ≤ hours := by
    rw [readLookBack, Text.readHours, Text.trim, String.toList_ofList, Text.maxHours]
    cases Text.readNat 4294967295 (Text.trimChars text.toList) with
    | error e => simp
    | ok n =>
      simp only [Option.ite_none_right_eq_some, Option.some.injEq, Except.ok.injEq]
      constructor
      · rintro ⟨positive, rfl⟩
        exact ⟨rfl, positive⟩
      · rintro ⟨rfl, positive⟩
        exact ⟨positive, rfl⟩
  rw [unfolded, Text.readNat_eq_ok_iff]
  constructor
  · rintro ⟨⟨t, unsigned, read, value, within⟩, positive⟩
    obtain ⟨front, back, blank, whole⟩ := Text.exists_blanks text.toList
    refine ⟨front, back, t, blank, unsigned, ?_, value, positive, within⟩
    rw [← read, ← whole, String.ofList_toList]
  · rintro ⟨front, back, t, blank, unsigned, rfl, value, positive, within⟩
    refine ⟨⟨t, unsigned, ?_, value, within⟩, positive⟩
    rw [String.toList_ofList]
    exact Text.trimChars_surrounded blank t.visible

/-! ## Dates -/

/-- The text is a timestamp of that instant. -/
def Dated (text : String) (i : Instant) : Prop := ∃ t : Timestamp, t.text = text ∧ t.instant = i

/-- The reader takes the texts that are dated. -/
theorem readTimestamp_eq_ok_iff {text : String} {i : Instant} : readTimestamp text = .ok i ↔ Dated text i := by
  rw [Dated, ← Instant.read_eq_some_iff, readTimestamp]
  cases Instant.read text with
  | none => simp
  | some j => simp

/-- The error of the reader names the text that is not dated. -/
theorem readTimestamp_of_undated {text : String} (h : ¬ ∃ i, Dated text i) :
    readTimestamp text = .error (.invalidTimestamp text) := by
  cases read : readTimestamp text with
  | ok i => exact absurd ⟨i, readTimestamp_eq_ok_iff.mp read⟩ h
  | error e =>
    rw [readTimestamp] at read
    split at read
    · cases read
    · exact read.symm

/-! ## The window -/

namespace TimeInput

variable {input : TimeInput} {column : String}

/-- Two dates are a window whatever else is asked for; the first that is no timestamp is the error. -/
theorem resolve_of_dates {a b : String} (start : input.startDate = some a) (stop : input.endDate = some b) :
    (∀ i j, Dated a i → Dated b j → input.resolve column = .ok (some ⟨column, .between i j⟩)) ∧
      ((¬ ∃ i, Dated a i) → input.resolve column = .error (.invalidTimestamp a)) ∧
      ((∃ i, Dated a i) → (¬ ∃ j, Dated b j) → input.resolve column = .error (.invalidTimestamp b)) := by
  have both : input.resolve column = (readTimestamp a).bind fun i => (readTimestamp b).bind fun j =>
      .ok (some ⟨column, .between i j⟩) := by
    rw [resolve, start, stop]
    rfl
  rw [both]
  refine ⟨?_, ?_, ?_⟩
  · intro i j dated dated'
    rw [readTimestamp_eq_ok_iff.mpr dated, readTimestamp_eq_ok_iff.mpr dated']
    rfl
  · intro undated
    rw [readTimestamp_of_undated undated]
    rfl
  · rintro ⟨i, dated⟩ undated
    rw [readTimestamp_eq_ok_iff.mpr dated, readTimestamp_of_undated undated]
    rfl

/-- Without both dates a request looks back or has no window, and never fails. -/
theorem resolve_of_missing (missing : input.startDate = .none ∨ input.endDate = .none) :
    (∀ hours, input.resolve column = .ok (some ⟨column, .pastHours hours⟩) ↔
        ∃ text, input.pastHours = some text ∧ LooksBack text hours) ∧
      ((¬ ∃ text hours, input.pastHours = some text ∧ LooksBack text hours) →
        input.resolve column = .ok .none) := by
  have single : input.resolve column
      = .ok ((input.pastHours.bind readLookBack).map fun hours => ⟨column, .pastHours hours⟩) := by
    rw [resolve]
    split
    · rename_i start stop
      rcases missing with absent | absent
      · rw [start] at absent
        cases absent
      · rw [stop] at absent
        cases absent
    · rfl
  rw [single]
  -- the text asks for no look-back, or for one
  cases asked : input.pastHours.bind readLookBack with
  | none =>
    rw [Option.bind_eq_none_iff] at asked
    refine ⟨?_, fun _ => rfl⟩
    intro hours
    refine iff_of_false (by simp) ?_
    rintro ⟨text, given, back⟩
    have := readLookBack_eq_some_iff.mpr back
    rw [asked text given] at this
    cases this
  | some found =>
    obtain ⟨text, given, back⟩ := Option.bind_eq_some_iff.mp asked
    refine ⟨?_, fun nothing => absurd ⟨text, found, given, readLookBack_eq_some_iff.mp back⟩ nothing⟩
    intro hours
    simp only [Option.map_some, Except.ok.injEq, Option.some.injEq, TimeRange.mk.injEq,
      TimeWindow.pastHours.injEq, true_and]
    constructor
    · rintro rfl
      exact ⟨text, given, readLookBack_eq_some_iff.mp back⟩
    · rintro ⟨text', given', back'⟩
      rw [given, Option.some.injEq] at given'
      rw [← given', ← readLookBack_eq_some_iff, back] at back'
      exact Option.some.inj back'

end TimeInput

end TraceQuery
