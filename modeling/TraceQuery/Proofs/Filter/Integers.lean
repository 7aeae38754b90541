/-
  A whole number that is given as text, read as an integer of 64 bits.

  1. **Numerals** (`Numeral`): an optional sign and at least one digit.  What it denotes is the value of its
     digits in base ten.
  2. **Two readers**: the exact reader (`readInteger_numeral`) takes a numeral within the bounds, with every
     digit, and refuses any other.  The reader of doubles (`readDouble_numeral`) takes every numeral, as the
     double nearest to it.
  3. **The second attempt** (`truncated_numeral`): what the exact reader refuses is read as a double, and the
     double is asked whether it fits.  Above the bounds it never does.  Below them it does for the 1024
     numbers that are rounded up to -2^63.
  4. **Filters** (`integer_exact_iff`): apart from these a filter on whole numbers binds the number that was
     written, or is dropped.
-/
import Mathlib.Data.List.Induction
import Mathlib.Data.List.TakeDrop
import Mathlib.Data.List.TakeWhile
import Mathlib.Data.Nat.Digits.Defs
import TraceQuery.Proofs.Decimal.Whole
import TraceQuery.Proofs.Filter.Typing
import TraceQuery.Proofs.Filter.Writing

namespace TraceQuery

open TraceQuery.Decimal TraceQuery.Sql

/-! ## Numerals -/

namespace Text

/-- The sign in front of a numeral. -/
inductive Sign where
  | unsigned
  | plus
  | minus
deriving DecidableEq, Repr

/-- The sign as it is written. -/
def Sign.chars : Sign → List Char
  | unsigned => []
  | plus => ['+']
  | minus => ['-']

/-- Tells whether the numeral stands for a number below zero, or for zero with a minus sign. -/
def Sign.isNegative : Sign → Bool
  | minus => true
  | _ => false

/-- A whole number as it is written. -/
structure Numeral where
  sign : Sign
  digits : List Char
  nonempty : digits ≠ []
  decimal : ∀ c ∈ digits, isDigit c = true

namespace Numeral

/-- The numeral as a text. -/
def text (t : Numeral) : String := String.ofList (t.sign.chars ++ t.digits)

/-- The number that the digits stand for in base ten. -/
def magnitude (t : Numeral) : Nat :=
  Nat.ofDigits 10 (t.digits.reverse.map fun c => c.toNat - '0'.toNat)

/-- The number that the numeral stands for. -/
def value (t : Numeral) : Int :=
  if t.sign.isNegative then -Int.ofNat t.magnitude else Int.ofNat t.magnitude

end Numeral

/-! ## The exact reader -/

/-- The running value of the reader is the value of the digits in base ten. -/
theorem digitsValue_eq (cs : List Char) :
    digitsValue 0 cs = Nat.ofDigits 10 (cs.reverse.map fun c => c.toNat - '0'.toNat) := by
  -- from behind, as the last digit is the one of least weight
  induction cs using List.reverseRecOn with
  | nil => rfl
  | append_singleton cs c ih =>
    rw [digitsValue_append, ih, List.reverse_append, List.map_append]
    show Nat.ofDigits 10 _ * 10 + _ = Nat.ofDigits 10 (_ :: _)
    rw [Nat.ofDigits_cons, Nat.add_comm, Nat.mul_comm]
    rfl

/-- Reading further digits lowers no value. -/
theorem le_digitsValue (start : Nat) (cs : List Char) : start ≤ digitsValue start cs := by
  induction cs generalizing start with
  | nil => exact Nat.le_refl start
  | cons c cs ih =>
    have : start * 10 + (c.toNat - '0'.toNat) ≤ digitsValue start (c :: cs) := ih _
    omega

theorem digitValue_of_isDigit {c : Char} (h : isDigit c = true) :
    digitValue? c = some (c.toNat - '0'.toNat) := if_pos h

/-- Digits are read if their value is within the limit; the digit that leaves it is the fault. -/
theorem readDigits_decimal {limit start : Nat} {excess : NumeralFault} {cs : List Char}
    (decimal : ∀ c ∈ cs, isDigit c = true) (within : start ≤ limit) :
    readDigits limit excess start cs
      = if digitsValue start cs ≤ limit then .ok (digitsValue start cs) else .error excess := by
  induction cs generalizing start with
  | nil => exact (if_pos within).symm
  | cons c cs ih =>
    -- once beyond the limit the value stays there, so the first digit that leaves it decides
    have grown : start * 10 + (c.toNat - '0'.toNat) ≤ digitsValue start (c :: cs) := le_digitsValue _ cs
    simp only [readDigits, digitValue_of_isDigit (decimal c List.mem_cons_self)]
    split
    · have : ¬ digitsValue start (c :: cs) ≤ limit := by omega
      rw [if_neg this]
    · exact ih (fun d hd => decimal d (List.mem_cons_of_mem c hd)) (by omega)

namespace Numeral

variable (t : Numeral)

theorem digitsValue_digits : digitsValue 0 t.digits = t.magnitude := digitsValue_eq t.digits

/-- A numeral goes on with a digit behind its sign, so the sign is not taken twice. -/
theorem exists_digit : ∃ c rest, t.digits = c :: rest ∧ c ≠ '+' ∧ c ≠ '-' := by
  obtain ⟨c, rest, front⟩ := List.exists_cons_of_ne_nil t.nonempty
  have digit : isDigit c = true := by
    refine t.decimal c ?_
    rw [front]
    exact List.mem_cons_self
  refine ⟨c, rest, front, ?_, ?_⟩
  · rintro rfl
    exact absurd digit (by decide)
  · rintro rfl
    exact absurd digit (by decide)

/-- The sign tells which bound holds. -/
theorem readInt_numeral (below above : Nat) :
    readInt below above (t.sign.chars ++ t.digits)
      = if t.sign.isNegative then (readDigits below .tooSmall 0 t.digits).map fun n => -Int.ofNat n
        else (readDigits above .tooLarge 0 t.digits).map Int.ofNat := by
  obtain ⟨c, rest, front, notPlus, notMinus⟩ := t.exists_digit
  rw [front]
  cases t.sign with
  | plus => rfl
  | minus => rfl
  | unsigned =>
    -- a digit is no sign
    show readInt below above (c :: rest) = (readDigits above .tooLarge 0 (c :: rest)).map Int.ofNat
    rw [readInt]
    · exact List.cons_ne_nil c rest
    · exact fun h => notPlus (List.cons.inj h).1
    · exact fun h => notMinus (List.cons.inj h).1
    · exact fun _ h => notPlus (List.cons.inj h).1
    · exact fun _ h => notMinus (List.cons.inj h).1

/-- A numeral fits if its magnitude does; there is one negative number more than positive ones. -/
theorem fitsInteger_value :
    fitsInteger t.value = true ↔
      t.magnitude ≤ if t.sign.isNegative then maxInteger + 1 else maxInteger := by
  rw [fitsInteger_iff, value]
  cases t.sign.isNegative with
  | true =>
    simp only [if_true, Int.ofNat_eq_natCast]
    omega
  | false =>
    simp only [Bool.false_eq_true, if_false, Int.ofNat_eq_natCast]
    omega

/-- The exact reader takes the numerals that fit, and no others. -/
theorem readInteger_numeral :
    readInteger t.text
      = if fitsInteger t.value then .ok t.value
        else .error (if t.sign.isNegative then .tooSmall else .tooLarge) := by
  have fits := t.fitsInteger_value
  rw [readInteger, text, String.toList_ofList, readInt_numeral,
    readDigits_decimal t.decimal (Nat.zero_le _), readDigits_decimal t.decimal (Nat.zero_le _),
    digitsValue_digits]
  -- below zero the bound is one further away
  cases negative : t.sign.isNegative with
  | true =>
    rw [negative, if_pos rfl] at fits
    by_cases within : t.magnitude ≤ maxInteger + 1
    · rw [if_pos rfl, if_pos within, if_pos (fits.mpr within), value, negative]
      rfl
    · rw [if_pos rfl, if_neg within, if_neg (mt fits.mp within)]
      rfl
  | false =>
    rw [negative, if_neg Bool.false_ne_true] at fits
    by_cases within : t.magnitude ≤ maxInteger
    · rw [if_neg Bool.false_ne_true, if_pos within, if_pos (fits.mpr within), value, negative]
      rfl
    · rw [if_neg Bool.false_ne_true, if_neg within, if_neg (mt fits.mp within)]
      rfl

/-! ## The reader of doubles -/

/-- A run of digits is taken to its end. -/
theorem splitDigits_digits : splitDigits t.digits = (t.digits, []) := by
  have all : t.digits.takeWhile isDigit = t.digits := List.takeWhile_eq_self_iff.mpr t.decimal
  have rest : t.digits.dropWhile isDigit = [] := List.dropWhile_eq_nil_iff.mpr t.decimal
  rw [splitDigits, List.span_eq_takeWhile_dropWhile, all, rest]

/-- Digits alone are a decimal without fraction and exponent. -/
theorem readMagnitude_digits (negative : Bool) :
    readMagnitude negative t.digits = some ⟨negative, t.magnitude, 0⟩ := by
  obtain ⟨c, rest, front, _, _⟩ := t.exists_digit
  have some_digit : t.digits.isEmpty = false := by rw [front]; rfl
  simp [readMagnitude, splitDigits_digits, some_digit, readExponentPart, digitsValue_digits]

/-- The reader of doubles takes every numeral. -/
theorem readDouble_numeral :
    readDouble t.text = some (Scaled.toDouble ⟨t.sign.isNegative, t.magnitude, 0⟩) := by
  obtain ⟨c, rest, front, notPlus, notMinus⟩ := t.exists_digit
  have read := t.readMagnitude_digits
  rw [front] at read
  rw [text, front]
  cases t.sign with
  | plus => simp [readDouble, Sign.chars, Sign.isNegative, read]
  | minus => simp [readDouble, Sign.chars, Sign.isNegative, read]
  | unsigned => simp [readDouble, Sign.chars, Sign.isNegative, read, notPlus, notMinus]

end Numeral

end Text

/-! ## The second attempt -/

namespace FilterValue

variable {s : String} {t : Text.Numeral}

/-- Read as a double a numeral that does not fit does not fit either, unless it is rounded up to the lower
    bound. -/
theorem truncated_numeral (written : Text.trim s = t.text) (outside : ¬ fitsInteger t.value = true) :
    (text s).truncated?
      = if t.sign.isNegative = true ∧ t.magnitude ≤ 2 ^ 63 + 1024 then some (-2 ^ 63) else none := by
  -- a numeral outside the bounds is at least 2^63 in size, where doubles are 2048 apart
  have low : 2 ^ 63 ≤ t.magnitude := by
    rw [t.fitsInteger_value, Text.maxInteger] at outside
    split at outside
    · omega
    · omega
  have nonzero : t.magnitude ≠ 0 := by omega
  have read : (text s).toDouble? = some (Double.ofRatio t.sign.isNegative t.magnitude 1) := by
    rw [toDouble?, written, t.readDouble_numeral, Scaled.toDouble_whole nonzero]
  rw [truncated?, toFinite?, read, Option.bind_some]
  -- up to half the distance the double is 2^63 itself, and with a minus sign that fits
  by_cases near : t.magnitude ≤ 2 ^ 63 + 1024
  · obtain ⟨x, finite, cut⟩ := Double.exists_truncate_near low near
    rw [finite, Option.bind_some, cut]
    cases t.sign.isNegative with
    | true =>
      have lowest : fitsInteger (-Int.ofNat (twoTo 63)) = true := by decide
      rw [if_pos rfl, if_pos lowest, if_pos ⟨rfl, near⟩]
      rfl
    | false =>
      have above : ¬ fitsInteger (Int.ofNat (twoTo 63)) = true := by decide
      rw [if_neg Bool.false_ne_true, if_neg above, if_neg fun both => Bool.false_ne_true both.1]
  · rw [if_neg fun both => near both.2]
    cases finite : (Double.ofRatio t.sign.isNegative t.magnitude 1).finite? with
    | none => rfl
    | some x =>
      obtain ⟨m, beyond, cut⟩ := Double.truncate_far (Nat.lt_of_not_le near) finite
      have outside : ¬ fitsInteger x.truncate = true := by
        rw [fitsInteger_iff, cut, Text.maxInteger]
        have bound : twoTo 63 = 9223372036854775808 := rfl
        simp only [Int.ofNat_eq_natCast]
        split
        · omega
        · omega
      exact if_neg outside

/-- What a filter makes of a numeral: the number itself, or the lower bound, or nothing. -/
theorem toInteger_numeral (written : Text.trim s = t.text) :
    (text s).toInteger?
      = if -2 ^ 63 ≤ t.value ∧ t.value ≤ 2 ^ 63 - 1 then some t.value
        else if -2 ^ 63 - 1024 ≤ t.value ∧ t.value < -2 ^ 63 then some (-2 ^ 63)
        else none := by
  have bounds : fitsInteger t.value = true ↔ -2 ^ 63 ≤ t.value ∧ t.value ≤ 2 ^ 63 - 1 := by
    rw [fitsInteger_iff, Text.maxInteger]
    simp only [Int.ofNat_eq_natCast]
    omega
  rw [toInteger?, written, t.readInteger_numeral]
  by_cases fits : fitsInteger t.value = true
  · rw [if_pos fits, if_pos (bounds.mp fits)]
  · rw [if_neg fits, if_neg (mt bounds.mpr fits)]
    show (text s).truncated? = _
    rw [truncated_numeral written fits]
    rw [bounds] at fits
    have near : t.sign.isNegative = true ∧ t.magnitude ≤ 2 ^ 63 + 1024 ↔
        -2 ^ 63 - 1024 ≤ t.value ∧ t.value < -2 ^ 63 := by
      cases negative : t.sign.isNegative with
      | true =>
        have value : t.value = -(t.magnitude : Int) := by
          rw [Text.Numeral.value, negative]
          rfl
        simp only [true_and]
        omega
      | false =>
        have value : t.value = (t.magnitude : Int) := by
          rw [Text.Numeral.value, negative]
          rfl
        simp only [Bool.false_eq_true, false_and, false_iff]
        omega
    simp only [near]

end FilterValue

/-! ## Filters -/

/-- A comparison with a column of whole numbers binds what is read and nothing else, or is dropped. -/
theorem ColumnFilter.apply_integers {f : Filter} {symbol : String}
    (compares : f.operator.symbol? = some symbol) (sql key : String) :
    (number sql .int64).apply f key
      = .ok (f.value.toInteger?.map fun n => ⟨compared sql symbol key .int64, [(key, .int n)]⟩) := by
  have text : (number sql .int64).operatorText f = .ok symbol := by
    rw [operatorText, Filter.comparison, compares]
  rw [apply_eq rfl, text]
  simp only [keeps, boundValues, NumericType.coerce]
  cases f.value.toInteger? with
  | none => rfl
  | some n => rfl

namespace FilterValue

variable {s : String} {t : Text.Numeral}

/-- A numeral is read as the number that it denotes, and as nothing if that does not fit, unless it denotes
    one of the 1024 numbers below the lower bound: they are all read as the bound.  Whatever is read is what
    a comparison with a column of whole numbers binds. -/
theorem integer_exact_iff (written : Text.trim s = t.text) :
    ((text s).toInteger?
        = (if -2 ^ 63 ≤ t.value ∧ t.value ≤ 2 ^ 63 - 1 then some t.value else none) ↔
      ¬ (-2 ^ 63 - 1024 ≤ t.value ∧ t.value < -2 ^ 63)) ∧
    (-2 ^ 63 - 1024 ≤ t.value ∧ t.value < -2 ^ 63 → (text s).toInteger? = some (-2 ^ 63)) ∧
    ∀ (sql column key symbol : String) (op : Operator), op.symbol? = some symbol →
      (ColumnFilter.number sql .int64).apply ⟨column, op, text s⟩ key
        = .ok ((text s).toInteger?.map fun n =>
            ⟨sql ++ " " ++ symbol ++ " " ++ placeholder key .int64, [(key, .int n)]⟩) := by
  have read := toInteger_numeral written
  refine ⟨?_, ?_, ?_⟩
  · rw [read]
    -- a number within the bounds is read exactly, and is not in the band
    by_cases fits : -2 ^ 63 ≤ t.value ∧ t.value ≤ 2 ^ 63 - 1
    · rw [if_pos fits, if_pos fits]
      constructor
      · intro _
        omega
      · intro _
        rfl
    · rw [if_neg fits, if_neg fits]
      constructor
      · intro dropped near
        rw [if_pos near] at dropped
        cases dropped
      · intro far
        exact if_neg far
  · intro near
    rw [read, if_neg (by omega), if_pos near]
  · intro sql column key symbol op compares
    exact ColumnFilter.apply_integers compares sql key

/-- The greatest number that is too far below the bound to be rounded up to it. -/
def farBelow : Text.Numeral := ⟨.minus, "9223372036854776833".toList, by decide, List.all_eq_true.mp (by decide)⟩

/-- Beyond the band below the bound a numeral is dropped, as it should be. -/
theorem integer_exact_farBelow :
    Text.trim " -9223372036854776833\t" = farBelow.text ∧ farBelow.value = -2 ^ 63 - 1025 ∧
      (text " -9223372036854776833\t").toInteger? = none := by
  have written : Text.trim " -9223372036854776833\t" = farBelow.text := by decide
  have value : farBelow.value = -2 ^ 63 - 1025 := by decide
  refine ⟨written, value, ?_⟩
  have exact := (integer_exact_iff written).1.mpr (by omega)
  rw [exact, if_neg (by omega)]

/-- One less than the least integer of 64 bits. -/
def oneBelow : Text.Numeral := ⟨.minus, "9223372036854775809".toList, by decide, List.all_eq_true.mp (by decide)⟩

/-- It does not fit, and all the same a filter binds a number for it, which is another one. -/
theorem integer_not_exact :
    oneBelow.value = -2 ^ 63 - 1 ∧ Text.trim "-9223372036854775809" = oneBelow.text ∧
      (text "-9223372036854775809").toInteger? = some (-2 ^ 63) ∧
      (ColumnFilter.number "id" .int64).apply ⟨"id", .eq, text "-9223372036854775809"⟩ "k"
        = .ok (some ⟨"id = \x7bk:Int64\x7d", [("k", .int (-2 ^ 63))]⟩) := by
  have written : Text.trim "-9223372036854775809" = oneBelow.text := by decide
  have value : oneBelow.value = -2 ^ 63 - 1 := by decide
  have read := toInteger_numeral written
  rw [if_neg (by omega), if_pos (by omega)] at read
  refine ⟨value, written, read, ?_⟩
  rw [ColumnFilter.apply_integers rfl, read]
  decide

end FilterValue

end TraceQuery
