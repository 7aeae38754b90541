/-
  An integer of 64 bits in a request, as a number and as text.

  The value of a filter is a number or a string of the document.  A number is kept as a double, a string as
  it stands; so the two ways to write one integer are two values.

  1. **As text** (`toInteger_digits`): the decimal digits of an integer are a numeral (`Numeral.ofInt`), no
     blank is cut off them, and the exact reader takes every one.
  2. **As a number** (`toInteger_number`): a column of whole numbers makes `nearestInteger n` of the double,
     the integer that it is; no double is closer to `n` (`nearestInteger_nearest`).  At the upper end of the
     range this is 2^63, which does not fit, and the filter is dropped.
  3. **In a request** (`Shape.ofNode_write`): a filter is an object or an array; in both shapes its value is
     read by itself.
  4. **Both** (`integer_forms_agree_iff`): the two forms give the same condition for the integers that are
     doubles, and for no others.
-/
import TraceQuery.Proofs.Filter.Integers
import TraceQuery.Proofs.Json.Records
import TraceQuery.Request.Filters

namespace TraceQuery

open TraceQuery.Decimal TraceQuery.Sql
open TraceQuery.Json (Node Origin)

/-! ## As text -/

namespace Text

/-- Nothing is dropped in front of a visible character. -/
theorem dropBlanks_of_visible {cs : List Char} (visible : ∀ c ∈ cs, isBlank c = false) :
    dropBlanks cs = cs := by
  cases cs with
  | nil => rfl
  | cons c rest => exact dropBlanks_of_head (visible c List.mem_cons_self)

/-- A text without blanks is not trimmed. -/
theorem trim_of_visible {s : String} (visible : ∀ c ∈ s.toList, isBlank c = false) : trim s = s := by
  have backwards : ∀ c ∈ s.toList.reverse, isBlank c = false :=
    fun c hc => visible c (List.mem_reverse.mp hc)
  rw [trim, trimChars, dropBlanks_of_visible visible, dropBlanks_of_visible backwards, List.reverse_reverse,
    String.ofList_toList]

/-- Digits are visible. -/
theorem isBlank_of_isDigit {c : Char} (h : isDigit c = true) : isBlank c = false := by
  simp only [isDigit, Bool.and_eq_true, decide_eq_true_eq, Char.le_def, UInt32.le_iff_toNat_le] at h
  have low : 48 ≤ c.toNat := h.1
  have high : c.toNat ≤ 57 := h.2
  -- every blank lies outside the range of the digits
  simp only [isBlank, Bool.or_eq_false_iff, Bool.and_eq_false_iff, decide_eq_false_iff_not, beq_eq_false_iff_ne]
  omega

/-- The reader's running value is the library's value of digit characters. -/
theorem digitsValue_eq_ofDigitChars (start : Nat) (cs : List Char) :
    digitsValue start cs = Nat.ofDigitChars 10 cs start := by
  induction cs generalizing start with
  | nil => rfl
  | cons c cs ih =>
    rw [Nat.ofDigitChars_cons, Nat.mul_comm]
    exact ih _

namespace Numeral

/-- A numeral has no blanks. -/
theorem visible (t : Numeral) : ∀ c ∈ t.sign.chars ++ t.digits, isBlank c = false := by
  intro c hc
  rcases List.mem_append.mp hc with sign | digit
  · have mark : ∀ c ∈ t.sign.chars, c = '+' ∨ c = '-' := by
      cases t.sign <;> simp [Sign.chars]
    rcases mark c sign with rfl | rfl <;> decide
  · exact isBlank_of_isDigit (t.decimal c digit)

/-- A numeral is not trimmed. -/
theorem trim_text (t : Numeral) : trim t.text = t.text := by
  refine trim_of_visible fun c hc => ?_
  rw [text, String.toList_ofList] at hc
  exact t.visible c hc

/-- The decimal digits of an integer, after a minus sign if it is negative. -/
def ofInt (n : Int) : Numeral where
  sign := if n < 0 then .minus else .unsigned
  digits := Nat.toDigits 10 n.natAbs
  nonempty := Nat.toDigits_ne_nil
  decimal _ hc := Nat.isDigit_of_mem_toDigits (by decide) (by decide) hc

/-- The numeral of an integer is how the integer is written. -/
theorem text_ofInt (n : Int) : (ofInt n).text = writeInt n := by
  simp only [text, ofInt, writeInt, writeNat]
  split
  · exact String.ofList_append
  · rfl

theorem value_ofInt (n : Int) : (ofInt n).value = n := by
  have magnitude : (ofInt n).magnitude = n.natAbs := by
    rw [← digitsValue_digits, digitsValue_eq_ofDigitChars]
    exact Nat.ofDigitChars_ten_toDigits
  rw [value, magnitude]
  by_cases below : n < 0
  · have sign : (ofInt n).sign.isNegative = true := by
      rw [ofInt, if_pos below]
      rfl
    rw [if_pos sign]
    simp only [Int.ofNat_eq_natCast]
    omega
  · have sign : (ofInt n).sign.isNegative = false := by
      rw [ofInt, if_neg below]
      rfl
    rw [sign, if_neg Bool.false_ne_true]
    simp only [Int.ofNat_eq_natCast]
    omega

end Numeral

end Text

/-! ## As a number -/

namespace Decimal

variable {n : Int}

/-- The integers that are doubles, as far as 64 bits go: 53 bits with zeros behind them, and a sign. -/
def IsDouble (n : Int) : Prop := ∃ k e, k < 2 ^ 53 ∧ n.natAbs = k * 2 ^ e

/-- The integer that the double nearest to `n` is. -/
def nearestInteger (n : Int) : Int :=
  if n < 0 then -Int.ofNat (nearestWhole n.natAbs) else Int.ofNat (nearestWhole n.natAbs)

/-- Rounding keeps the sign. -/
theorem nearestInteger_cases (n : Int) :
    (n < 0 ∧ nearestInteger n = -(nearestWhole n.natAbs : Int)) ∨
      (0 ≤ n ∧ nearestInteger n = (nearestWhole n.natAbs : Int)) := by
  by_cases below : n < 0
  · exact .inl ⟨below, if_pos below⟩
  · exact .inr ⟨Int.not_lt.mp below, if_neg below⟩

/-- An integer is rounded to a double. -/
theorem isDouble_nearestInteger (n : Int) : IsDouble (nearestInteger n) := by
  have size : (nearestInteger n).natAbs = nearestWhole n.natAbs := by
    have := nearestInteger_cases n
    omega
  rw [IsDouble, size]
  exact exists_nearestWhole n.natAbs

/-- Rounding leaves alone exactly the integers that are doubles. -/
theorem nearestInteger_eq_self_iff : nearestInteger n = n ↔ IsDouble n := by
  have whole : nearestWhole n.natAbs = n.natAbs ↔ IsDouble n := nearestWhole_eq_self_iff
  have := nearestInteger_cases n
  rw [← whole]
  omega

/-- No integer that is a double is closer. -/
theorem nearestInteger_nearest {m : Int} (double : IsDouble m) :
    (nearestInteger n - n).natAbs ≤ (m - n).natAbs := by
  obtain ⟨k, e, bits, size⟩ := double
  have nearest : ((nearestWhole n.natAbs : Nat) - n.natAbs : Int).natAbs
      ≤ ((m.natAbs : Nat) - n.natAbs : Int).natAbs := by
    rw [size]
    exact nearestWhole_nearest bits
  have := nearestInteger_cases n
  omega

/-- The nearest double fits too, but for the 512 greatest integers of 64 bits. -/
theorem fitsInteger_nearestInteger (low : -2 ^ 63 ≤ n) (high : n < 2 ^ 63) :
    fitsInteger (nearestInteger n) = true ↔ n < 2 ^ 63 - 512 := by
  have bound : twoTo 63 = 9223372036854775808 := rfl
  rw [fitsInteger_iff, Text.maxInteger]
  simp only [Int.ofNat_eq_natCast]
  -- below zero the bound itself is a double; above, rounding can reach 2^63, which does not fit
  rcases nearestInteger_cases n with ⟨below, rounded⟩ | ⟨above, rounded⟩
  · have within : nearestWhole n.natAbs ≤ twoTo 63 := nearestWhole_le (by omega)
    omega
  · have within := nearestWhole_lt_iff (n := n.natAbs) (by omega)
    omega

/-- An integer that is a double is its own nearest double, and fits. -/
theorem nearestInteger_exact_iff (low : -2 ^ 63 ≤ n) (high : n < 2 ^ 63) :
    (if n < 2 ^ 63 - 512 then some (nearestInteger n) else none) = some n ↔ IsDouble n := by
  rw [← nearestInteger_eq_self_iff]
  constructor
  · intro h
    split at h
    · exact Option.some.inj h
    · cases h
  · intro exact
    -- what is its own double is below 2^63, so it is not among the numbers that are rounded up to it
    have fits : fitsInteger (nearestInteger n) = true := by
      rw [exact, fitsInteger_iff, Text.maxInteger]
      simp only [Int.ofNat_eq_natCast]
      omega
    rw [if_pos ((fitsInteger_nearestInteger low high).mp fits), exact]

end Decimal

namespace FilterValue

variable {n : Int}

/-- The digits of an integer of 64 bits are read as the integer. -/
theorem toInteger_digits (low : -2 ^ 63 ≤ n) (high : n < 2 ^ 63) :
    (text (Text.writeInt n)).toInteger? = some n := by
  have written : Text.trim (Text.writeInt n) = (Text.Numeral.ofInt n).text := by
    rw [← Text.Numeral.text_ofInt, Text.Numeral.trim_text]
  rw [toInteger_numeral written, Text.Numeral.value_ofInt, if_pos ⟨low, by omega⟩]

/-- The double is finite, and a whole number. -/
theorem exists_finite_integer (low : -2 ^ 63 ≤ n) (high : n < 2 ^ 63) :
    ∃ x, (number (Json.Number.integer n).toDouble).toFinite? = some x ∧ x.truncate = nearestInteger n := by
  -- zero is read apart from the others, as a double with a sign
  by_cases zero : n = 0
  · subst zero
    refine ⟨.zero false, ?_, ?_⟩
    · rfl
    · rw [Finite.truncate, Finite.magnitude, Finite.zero, Nat.zero_mul, Nat.zero_div]
      rfl
  · have nonzero : n.natAbs ≠ 0 := by omega
    have place : n.natAbs.log2 < 64 := (Nat.log2_lt nonzero).mpr (by omega)
    obtain ⟨x, finite, cut⟩ := Double.exists_truncate_whole (decide (n < 0)) nonzero (by omega)
    refine ⟨x, ?_, ?_⟩
    · rw [toFinite?, toDouble?, Json.Number.toDouble, Scaled.toDouble_whole nonzero, Option.bind_some, finite]
    · rw [cut, nearestInteger]
      simp only [decide_eq_true_eq]

/-- The double is read as the integer that it is, if that fits. -/
theorem toInteger_number (low : -2 ^ 63 ≤ n) (high : n < 2 ^ 63) :
    (number (Json.Number.integer n).toDouble).toInteger?
      = if n < 2 ^ 63 - 512 then some (nearestInteger n) else none := by
  obtain ⟨x, finite, cut⟩ := exists_finite_integer low high
  rw [toInteger?, truncated?, finite, Option.bind_some, cut]
  simp only [fitsInteger_nearestInteger low high]

end FilterValue

/-! ## In a request -/

namespace Filter

/-- The shapes of a filter: an object with a key for each part, or an array of the parts. -/
inductive Shape where
  | object
  | array
deriving DecidableEq, Repr

/-- A filter as JSON, in one of its two shapes. -/
def Shape.write (column : String) (op : Operator) (value : Json.Value) : Shape → Json.Value
  | object => .object [("column", .string column), ("operator", .string op.name), ("value", value)]
  | array => .array [.string column, .string op.name, value]

/-- In either shape the parts are read one by one. -/
theorem Shape.ofNode_write {origin : Origin} {value : Json.Value} {v : FilterValue}
    (read : FilterValue.ofNode origin.inside (Node.ofValue value) = .ok v) (shape : Shape)
    (column : String) (op : Operator) :
    Filter.ofNode origin (Node.ofValue (shape.write column op value)) = .ok ⟨column, op, v⟩ := by
  have operator : Operator.ofNode (Node.ofValue (.string op.name)) = .ok op := by
    have named : (Node.ofValue (.string op.name)).readString = .ok op.name := rfl
    simp only [Operator.ofNode, named, Except.bind, bind, Operator.ofName?_name]
    rfl
  cases shape with
  | object =>
    have members : Node.readMembers (FilterDraft.put origin.inside) true ⟨none, none, none⟩
        (Json.memberNodes [("column", .string column), ("operator", .string op.name), ("value", value)])
          = .ok ⟨some column, some op, some v⟩ := by
      refine Json.readMembers_cons.mpr ⟨"column", ⟨some column, none, none⟩, rfl, rfl, ?_⟩
      refine Json.readMembers_cons.mpr ⟨"operator", ⟨some column, some op, none⟩, rfl, ?_, ?_⟩
      · exact Json.return_eq_ok.mpr ⟨_, Json.once_eq_ok.mpr ⟨rfl, op, operator, rfl⟩, rfl⟩
      refine Json.readMembers_cons.mpr ⟨"value", _, rfl, ?_, Json.readMembers_nil.mpr ⟨rfl, rfl⟩⟩
      exact Json.return_eq_ok.mpr ⟨_, Json.once_eq_ok.mpr ⟨rfl, v, read, rfl⟩, rfl⟩
    show (Node.readMembers _ _ _ _).bind FilterDraft.finish = _
    rw [members]
    rfl
  | array =>
    show (Operator.ofNode _).bind _ = _
    rw [operator]
    show (FilterValue.ofNode _ _).bind _ = _
    rw [read]
    cases origin <;> rfl

end Filter

/-- A scalar is never too deep. -/
theorem Json.Node.whole_scalar (origin : Origin) (s : Json.Scalar) : (Node.scalar s).whole origin = .ok () := by
  cases origin with
  | value => rfl
  | text depth => simp [Node.whole, Node.toValue?]

/-- An integer of the document becomes the double nearest to it, whatever its size. -/
theorem FilterValue.ofNode_integer (origin : Origin) (n : Int) :
    ofNode origin (Node.ofValue (.integer n)) = .ok (number (Json.Number.integer n).toDouble) := by
  show ((Node.scalar _).whole origin).bind _ = _
  rw [Json.Node.whole_scalar]
  rfl

/-- A string of the document stays as it is. -/
theorem FilterValue.ofNode_string (origin : Origin) (s : String) :
    ofNode origin (Node.ofValue (.string s)) = .ok (text s) := by
  show ((Node.scalar _).whole origin).bind _ = _
  rw [Json.Node.whole_scalar]
  rfl

/-! ## Both -/

namespace ColumnFilter

/-- A column of whole numbers compared with an integer. -/
def comparedWith (sql symbol key : String) (n : Int) : Condition :=
  ⟨sql ++ " " ++ symbol ++ " " ++ placeholder key .int64, [(key, .int n)]⟩

/-- The condition tells the number that is compared with. -/
theorem comparedWith_injective (sql symbol key : String) :
    Function.Injective (comparedWith sql symbol key) := by
  intro m n h
  have bound : (key, ParamValue.int m) = (key, ParamValue.int n) :=
    (List.cons.inj (congrArg Condition.bindings h)).1
  exact ParamValue.int.inj (Prod.mk.inj bound).2

/-- An operator without a symbol is refused by a column of numbers, whatever the value. -/
theorem apply_uncompared {f : Filter} (refused : f.operator.symbol? = none) (sql : String)
    (type : NumericType) (key : String) : (number sql type).apply f key = .error f.unsupported := by
  rw [apply_eq rfl, operatorText, Filter.comparison, refused]
  rfl

end ColumnFilter

namespace Filter

variable {n : Int}

/-- A filter on a column of whole numbers whose value is an integer of 64 bits.  Written as text the integer
    is bound with every digit.  Written as a number it is rounded to the nearest double first, and the
    filter is dropped if that is 2^63.  The two agree for the integers that are doubles. -/
theorem integer_forms_agree_iff (low : -2 ^ 63 ≤ n) (high : n < 2 ^ 63) (shape : Shape) (origin : Origin)
    (column : String) (op : Operator) (sql key : String) :
    (IsDouble (nearestInteger n) ∧ ∀ m, IsDouble m → (nearestInteger n - n).natAbs ≤ (m - n).natAbs) ∧
    ∃ digits number : Filter,
      Filter.ofNode origin (Node.ofValue (shape.write column op (.string (Text.writeInt n)))) = .ok digits ∧
      Filter.ofNode origin (Node.ofValue (shape.write column op (.integer n))) = .ok number ∧
      (∀ symbol, op.symbol? = some symbol →
        (ColumnFilter.number sql .int64).apply digits key
          = .ok (some (ColumnFilter.comparedWith sql symbol key n)) ∧
        (ColumnFilter.number sql .int64).apply number key
          = .ok (if n < 2 ^ 63 - 512 then some (ColumnFilter.comparedWith sql symbol key (nearestInteger n))
              else none) ∧
        ((ColumnFilter.number sql .int64).apply number key = (ColumnFilter.number sql .int64).apply digits key
          ↔ IsDouble n)) ∧
      (op.symbol? = none →
        (ColumnFilter.number sql .int64).apply digits key = .error (.unsupportedOperator column op) ∧
        (ColumnFilter.number sql .int64).apply number key = .error (.unsupportedOperator column op)) := by
  have digits := Shape.ofNode_write (FilterValue.ofNode_string origin.inside (Text.writeInt n)) shape column op
  have number := Shape.ofNode_write (FilterValue.ofNode_integer origin.inside n) shape column op
  refine ⟨⟨isDouble_nearestInteger n, fun _ => nearestInteger_nearest⟩, _, _, digits, number, ?_, ?_⟩
  · intro symbol compares
    -- both forms meet the same column, so they agree if what is read of them does
    have bound (v : FilterValue) : (ColumnFilter.number sql .int64).apply ⟨column, op, v⟩ key
        = .ok (v.toInteger?.map (ColumnFilter.comparedWith sql symbol key)) :=
      ColumnFilter.apply_integers compares sql key
    have exact := nearestInteger_exact_iff low high
    rw [bound, bound, FilterValue.toInteger_digits low high, FilterValue.toInteger_number low high, ← exact]
    refine ⟨rfl, ?_, ?_⟩
    · split <;> rfl
    · rw [Except.ok.injEq]
      exact (Option.map_injective (ColumnFilter.comparedWith_injective sql symbol key)).eq_iff
  · intro refused
    exact ⟨ColumnFilter.apply_uncompared refused sql .int64 key,
      ColumnFilter.apply_uncompared refused sql .int64 key⟩

/-- Beyond 53 bits the even integers are doubles still. -/
theorem integer_forms_agree_even :
    (2 : Int) ^ 53 < 9007199254740994 ∧ ∃ digits number : Filter,
      Filter.ofNode (.text 0) (Node.ofValue (.array [.string "id", .string "eq", .string "9007199254740994"]))
        = .ok digits ∧
      Filter.ofNode (.text 0) (Node.ofValue (.array [.string "id", .string "eq", .integer 9007199254740994]))
        = .ok number ∧
      (ColumnFilter.number "id" .int64).apply digits "k"
        = .ok (some ⟨"id = \x7bk:Int64\x7d", [("k", .int 9007199254740994)]⟩) ∧
      (ColumnFilter.number "id" .int64).apply number "k" = (ColumnFilter.number "id" .int64).apply digits "k" := by
  obtain ⟨_, digits, number, readDigits, readNumber, compared, _⟩ :=
    integer_forms_agree_iff (n := 9007199254740994) (by decide) (by decide) .array (.text 0) "id" .eq "id" "k"
  obtain ⟨exact, _, agree⟩ := compared "=" rfl
  have even : IsDouble 9007199254740994 := ⟨4503599627370497, 1, by decide⟩
  exact ⟨by decide, digits, number, readDigits, readNumber, exact, agree.mpr even⟩

/-- The odd ones are not: the number form of 2^53 + 1 looks for its even neighbour. -/
theorem integer_forms_differ :
    ∃ digits number : Filter,
      Filter.ofNode (.text 0) (Node.ofValue (.array [.string "id", .string "eq", .string "9007199254740993"]))
        = .ok digits ∧
      Filter.ofNode (.text 0) (Node.ofValue (.array [.string "id", .string "eq", .integer 9007199254740993]))
        = .ok number ∧
      (ColumnFilter.number "id" .int64).apply digits "k"
        = .ok (some ⟨"id = \x7bk:Int64\x7d", [("k", .int 9007199254740993)]⟩) ∧
      (ColumnFilter.number "id" .int64).apply number "k"
        = .ok (some ⟨"id = \x7bk:Int64\x7d", [("k", .int 9007199254740992)]⟩) := by
  have digits := Shape.ofNode_write
    (FilterValue.ofNode_string (Origin.text 0).inside (Text.writeInt 9007199254740993)) .array "id" .eq
  have number := Shape.ofNode_write
    (FilterValue.ofNode_integer (Origin.text 0).inside 9007199254740993) .array "id" .eq
  refine ⟨_, _, digits, number, ?_, ?_⟩
  · rw [ColumnFilter.apply_integers rfl, FilterValue.toInteger_digits (by decide) (by decide)]
    rfl
  · have rounded : nearestInteger 9007199254740993 = 9007199254740992 := by decide
    rw [ColumnFilter.apply_integers rfl, FilterValue.toInteger_number (by decide) (by decide),
      if_pos (by decide), rounded]
    rfl

end Filter

end TraceQuery
