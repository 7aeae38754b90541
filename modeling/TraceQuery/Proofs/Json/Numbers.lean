/-
  Doubles as numbers of a JSON text.

  1. **Digits** (`head?_toDigits`): a natural number is written without leading zeros, and zeros behind it
     are powers of ten.
  2. **One number** (`floatText_of_parts`): digits before a point, digits behind it and an exponent are a
     number of the grammar.  With a point or an exponent its token is a double, the one nearest to the decimal.
  3. **The notations** (`floatText_positional`, `floatText_scientific`): wherever the point is placed, the
     decimal is the one that the digits came from.  A whole number gets one digit behind the point, so that
     it does not become an integer.
  4. **The text of a double** (`exists_numberText_float`) is read as this double, because the digits are the
     shortest ones.
-/
import TraceQuery.Proofs.Decimal.Shortest
import TraceQuery.Proofs.Json.Grammar

namespace TraceQuery

open TraceQuery.Decimal (Finite Layout Scaled Double tenTo positionalChars scientificChars)
open TraceQuery.Text (isDigit digitsValue Numeral Sign writeNat)

/-! ## Digits -/

namespace Text

theorem digitsValue_toDigits (n : Nat) : digitsValue 0 (Nat.toDigits 10 n) = n := by
  rw [digitsValue_eq_ofDigitChars]
  exact Nat.ofDigitChars_ten_toDigits

theorem digitsValue_zeros (start count : Nat) :
    digitsValue start (List.replicate count '0') = start * tenTo count := by
  rw [digitsValue_eq_ofDigitChars, Nat.ofDigitChars_replicate_zero, Nat.mul_comm]
  rfl

theorem isDigit_of_mem_toDigits {n : Nat} {c : Char} (h : c ∈ Nat.toDigits 10 n) : isDigit c = true :=
  Nat.isDigit_of_mem_toDigits (by decide) (by decide) h

theorem isDigit_of_mem_zeros {count : Nat} {c : Char} (h : c ∈ List.replicate count '0') :
    isDigit c = true := by
  rw [(List.mem_replicate.mp h).2]
  decide

/-- No number begins with a zero but zero itself. -/
theorem head?_toDigits {n : Nat} (positive : 0 < n) : (Nat.toDigits 10 n).head? ≠ some '0' := by
  -- the first digit is the one that is split off last
  induction n using Nat.strongRecOn with
  | ind n ih =>
    by_cases short : n < 10
    · have visible : ∀ d < 10, 0 < d → Nat.digitChar d ≠ '0' := by decide
      rw [Nat.toDigits_of_lt_base short, List.head?_cons]
      exact fun same => visible n short positive (Option.some.inj same)
    · rw [Nat.toDigits_of_base_le (by decide) (by omega), List.head?_append_of_ne_nil _ Nat.toDigits_ne_nil]
      exact ih (n / 10) (by omega) (by omega)

/-- Digits of a number without a zero in front. -/
structure DigitsOf (n : Nat) (ds : List Char) : Prop where
  nonempty : ds ≠ []
  leads : ds.head? ≠ some '0'
  decimal : ∀ d ∈ ds, isDigit d = true
  value : digitsValue 0 ds = n

/-- A positive number is written with digits of its own and no zero in front. -/
theorem digitsOf_toDigits {n : Nat} (positive : 0 < n) : DigitsOf n (Nat.toDigits 10 n) where
  nonempty := Nat.toDigits_ne_nil
  leads := head?_toDigits positive
  decimal _ := isDigit_of_mem_toDigits
  value := digitsValue_toDigits n

/-- An integer after its sign, which is always there. -/
def Numeral.signed (n : Int) : Numeral :=
  { Numeral.ofInt n with sign := if n < 0 then .minus else .plus }

/-- A sign that is written out changes no value. -/
theorem Numeral.value_signed (n : Int) : (Numeral.signed n).value = n := by
  have same : (Numeral.signed n).sign.isNegative = (Numeral.ofInt n).sign.isNegative := by
    simp only [signed, ofInt]
    split <;> rfl
  have value : (Numeral.signed n).value = (Numeral.ofInt n).value := by
    rw [Numeral.value, same]
    rfl
  rw [value, value_ofInt]

end Text

namespace Json

open TraceQuery.Text (DigitsOf)

section Numbers

variable {x : Finite} {cs ds : List Char} {c : Nat} {power : Int}

/-! ## One number -/

/-- The sign of a double, if it has one. -/
def signOf (x : Finite) : Sign := if x.negative then .minus else .unsigned

theorem signOf_ne_plus : signOf x ≠ .plus := by
  unfold signOf
  split <;> simp

/-- The sign in front is that of the double, also of a zero. -/
theorem isNegative_signOf : (signOf x).isNegative = x.negative := by
  unfold signOf
  cases x.negative <;> rfl

/-- The point and the digits behind it. -/
def pointed (fraction : List Char) : List Char := if fraction = [] then [] else '.' :: fraction

/-- An exponent with its letter and its sign. -/
def exponentText (exponent : Option Int) : List Char :=
  exponent.elim [] fun e => 'e' :: ((Numeral.signed e).sign.chars ++ (Numeral.signed e).digits)

/-- Behind the sign of a double, the text is a number of the grammar, and its token is the double. -/
def FloatText (x : Finite) (cs : List Char) : Prop :=
  ∃ t : NumberText, t.token = .scalar (.number (.float x)) ∧ t.chars = (signOf x).chars ++ cs

/-- Digits with a point or an exponent are a double. -/
theorem floatText_of_parts (whole fraction : List Char) (exponent : Option Int) (nonempty : whole ≠ [])
    (leads : whole.head? = some '0' → whole = ['0'])
    (decimal : ∀ d ∈ whole ++ fraction, isDigit d = true) (point : fraction ≠ [] ∨ exponent ≠ none)
    (coefficient : digitsValue 0 (whole ++ fraction) = c)
    (place : exponent.getD 0 - fraction.length = power)
    (double : Scaled.toDouble ⟨x.negative, c, power⟩ = .finite x)
    (written : cs = whole ++ (pointed fraction ++ exponentText exponent)) : FloatText x cs := by
  let t : NumberText :=
    { whole := ⟨signOf x, whole, nonempty, fun d hd => decimal d (List.mem_append_left _ hd)⟩
      fraction := fraction
      exponent := exponent.map fun e => ('e', .signed e)
      noPlus := signOf_ne_plus
      noLeadingZero := leads
      decimal := fun d hd => decimal d (List.mem_append_right _ hd)
      letter := by
        intro e he
        obtain ⟨n, _, rfl⟩ := Option.map_eq_some_iff.mp he
        exact .inl rfl }
  refine ⟨t, ?_, ?_⟩
  · have same : t.exponent.map (fun e => e.2.value) = exponent := by
      cases exponent with
      | none => rfl
      | some e => exact congrArg some (Numeral.value_signed e)
    -- with a point or an exponent the token is no integer, whatever its value
    have float : (fraction.isEmpty && exponent.isNone) = false := by
      rw [Bool.and_eq_false_iff, List.isEmpty_eq_false_iff, Option.isNone_eq_false_iff,
        Option.isSome_iff_ne_none]
      exact point
    show numberToken (signOf x).isNegative whole fraction _ = _
    rw [same, isNegative_signOf, numberToken]
    simp only [float, Bool.false_eq_true, if_false]
    rw [floatToken, coefficient, Int.ofNat_eq_natCast, place, double]
  · rw [written]
    cases exponent <;> rfl

/-! ## The notations -/

/-- Zeros between the point and the digits. -/
theorem floatText_behindPoint (digits : DigitsOf c ds) {zeros : Nat}
    (place : -((zeros + ds.length : Nat) : Int) = power)
    (double : Scaled.toDouble ⟨x.negative, c, power⟩ = .finite x) :
    FloatText x ('0' :: '.' :: List.replicate zeros '0' ++ ds) := by
  have point : List.replicate zeros '0' ++ ds ≠ [] := by simp [digits.nonempty]
  have decimal : ∀ d ∈ '0' :: (List.replicate zeros '0' ++ ds), isDigit d = true := by
    intro d hd
    rcases List.mem_cons.mp hd with rfl | hd
    · decide
    · rcases List.mem_append.mp hd with zero | digit
      · exact Text.isDigit_of_mem_zeros zero
      · exact digits.decimal d digit
  refine floatText_of_parts ['0'] (List.replicate zeros '0' ++ ds) none (List.cons_ne_nil _ _) (fun _ => rfl)
    decimal (.inl point) ?_ ?_ double ?_
  · show digitsValue 0 (List.replicate zeros '0' ++ ds) = c
    rw [Text.digitsValue_append, Text.digitsValue_zeros, Nat.zero_mul, digits.value]
  · rw [List.length_append, List.length_replicate, ← place]
    exact Int.zero_sub _
  · rw [pointed, if_neg point]
    simp [exponentText]

/-- Zeros between the digits and the point, and one behind it. -/
theorem floatText_beforePoint (digits : DigitsOf c ds) (nonzero : x.significand ≠ 0)
    (covers : x.Covers c power) (whole : 0 ≤ power) :
    FloatText x (ds ++ List.replicate power.toNat '0' ++ ['.', '0']) := by
  have front : (ds ++ List.replicate power.toNat '0').head? = ds.head? :=
    List.head?_append_of_ne_nil _ digits.nonempty
  have decimal : ∀ d ∈ ds ++ List.replicate power.toNat '0' ++ ['0'], isDigit d = true := by
    intro d hd
    rw [List.mem_append, List.mem_append, List.mem_singleton] at hd
    rcases hd with (digit | zero) | rfl
    · exact digits.decimal d digit
    · exact Text.isDigit_of_mem_zeros zero
    · decide
  -- the decimal has one digit more, the zero behind the point, and one power of ten less
  refine floatText_of_parts (ds ++ List.replicate power.toNat '0') ['0'] none (by simp [digits.nonempty])
    (fun zero => absurd (front ▸ zero) digits.leads) decimal (.inl (List.cons_ne_nil _ _)) ?_ rfl
    ((covers.tenth whole).toDouble nonzero) ?_
  · rw [Text.digitsValue_append, Text.digitsValue_append, Text.digitsValue_zeros, digits.value]
    rfl
  · simp [pointed, exponentText]

/-- The point among the digits. -/
theorem floatText_amidst (digits : DigitsOf c ds) {front : Nat} (some : 0 < front) (rest : front < ds.length)
    (place : -((ds.length - front : Nat) : Int) = power)
    (double : Scaled.toDouble ⟨x.negative, c, power⟩ = .finite x) :
    FloatText x (ds.take front ++ '.' :: ds.drop front) := by
  have point : ds.drop front ≠ [] := List.ne_nil_of_length_pos (by rw [List.length_drop]; omega)
  have whole : ds.take front ≠ [] := List.ne_nil_of_length_pos (by rw [List.length_take]; omega)
  have first : (ds.take front).head? = ds.head? := by
    rw [List.head?_take, if_neg (Nat.ne_of_gt some)]
  -- the digits are those of the number, only the point stands among them
  have all : ds.take front ++ ds.drop front = ds := List.take_append_drop _ _
  refine floatText_of_parts (ds.take front) (ds.drop front) none whole
    (fun zero => absurd (first ▸ zero) digits.leads) (all.symm ▸ digits.decimal) (.inl point)
    (all.symm ▸ digits.value) ?_ double ?_
  · rw [List.length_drop, ← place]
    exact Int.zero_sub _
  · rw [pointed, if_neg point]
    simp [exponentText]

/-- An exponent is written with a letter, a sign and its digits. -/
theorem exponentText_some (e : Int) :
    exponentText (some e) = 'e' :: (if e < 0 then '-' else '+') :: (writeNat e.natAbs).toList := by
  rw [writeNat, String.toList_ofList]
  show 'e' :: ((if e < 0 then Sign.minus else .plus).chars ++ Nat.toDigits 10 e.natAbs) = _
  split <;> rfl

/-- With an exponent, after one digit. -/
theorem floatText_scientific (digits : DigitsOf c ds)
    (double : Scaled.toDouble ⟨x.negative, c, power⟩ = .finite x) :
    FloatText x (scientificChars ds (power + ds.length - 1)) := by
  obtain ⟨d, rest, rfl⟩ := List.exists_cons_of_ne_nil digits.nonempty
  have leads : [d].head? = some '0' → [d] = ['0'] := fun zero => absurd zero digits.leads
  have place : power + (d :: rest).length - 1 - rest.length = power := by
    rw [List.length_cons]
    omega
  refine floatText_of_parts [d] rest (some (power + (d :: rest).length - 1)) (List.cons_ne_nil d []) leads
    digits.decimal (.inr (Option.some_ne_none _)) digits.value place double ?_
  rw [exponentText_some]
  cases rest <;> rfl

/-- With the point among the digits, in front of them or behind them. -/
theorem floatText_positional (digits : DigitsOf c ds) (nonzero : x.significand ≠ 0)
    (covers : x.Covers c power) : FloatText x (positionalChars true ds (power + ds.length - 1)) := by
  have some : 0 < ds.length := List.length_pos_of_ne_nil digits.nonempty
  have double := covers.toDouble nonzero
  -- in front of all digits, behind them all, or amidst
  unfold positionalChars
  split
  · exact floatText_behindPoint digits (by omega) double
  · simp only
    split
    · have zeros : (power + ds.length - 1).toNat + 1 - ds.length = power.toNat := by omega
      rw [zeros]
      exact floatText_beforePoint digits nonzero covers (by omega)
    · exact floatText_amidst digits (by omega) (by omega) (by omega) double

/-! ## The text of a double -/

/-- Zero is written with one digit on each side of the point. -/
theorem floatText_zero (zero : x.isZero = true) : FloatText x ['0', '.', '0'] := by
  have double : Scaled.toDouble ⟨x.negative, 0, -1⟩ = .finite x := by
    rw [Finite.eq_zero_of_isZero zero]
    rfl
  exact floatText_of_parts ['0'] ['0'] none (List.cons_ne_nil _ _) (fun _ => rfl) (List.all_eq_true.mp rfl)
    (.inl (List.cons_ne_nil _ _)) rfl rfl double rfl

/-- In the layout of numbers, a double behind its sign is a number of the grammar. -/
theorem floatText_magnitudeChars (x : Finite) : FloatText x (Layout.number.magnitudeChars x) := by
  unfold Layout.magnitudeChars
  -- zero apart, since it has no shortest digits
  split
  · rename_i zero
    exact floatText_zero zero
  · rename_i some
    have nonzero : x.significand ≠ 0 := by simpa [Finite.isZero] using some
    have covers : x.Covers (x.shortest .even).digits (x.shortest .even).power :=
      Finite.covers_shortest nonzero
    have digits := Text.digitsOf_toDigits (Nat.pos_of_ne_zero (covers.ne_zero nonzero))
    simp only
    split
    · exact floatText_positional digits nonzero covers
    · exact floatText_scientific digits (covers.toDouble nonzero)

/-- The text of a double is a number whose token is this double. -/
theorem exists_numberText_float (x : Finite) : ∃ t : NumberText,
    t.token = .scalar (.number (.float x)) ∧ t.chars = (Layout.number.writeFinite x).toList := by
  have sign : (signOf x).chars = if x.negative then ['-'] else [] := by
    unfold signOf
    split <;> rfl
  rw [Layout.writeFinite, String.toList_ofList, ← sign]
  exact floatText_magnitudeChars x

end Numbers

end Json

end TraceQuery
