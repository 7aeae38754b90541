/-
  Numbers in fields of a fixed width.

  1. **Values** (`digitsValue_eq_add`, `digitsValue_lt`): a run of digits has the value that its length
     allows, after the value read before it.
  2. **Order** (`lt_iff_digitsValue_lt`): runs of one length are ordered as their values, and so are the fields
     filled up with zeros (`padded_lt_iff`, `padded_inj`).
  3. **Reading** (`takeNumber_eq_some_iff`): what the reader of a field takes is the field as it is written.
-/
import Mathlib.Algebra.Order.Ring.Nat
import Mathlib.Data.Char
import Mathlib.Data.List.Lex
import TraceQuery.Proofs.Filter.WireForms
import TraceQuery.Time.Instant

namespace TraceQuery.Time

open TraceQuery.Text (isDigit digitsValue digitsValue_append)

/-! ## Values of runs of digits -/

/-- The value read before moves up by as many places as there are digits to come. -/
theorem digitsValue_eq_add (start : Nat) (cs : List Char) :
    digitsValue start cs = start * 10 ^ cs.length + digitsValue 0 cs := by
  induction cs generalizing start with
  | nil => simp [digitsValue]
  | cons c cs ih =>
    have front (s : Nat) :
        digitsValue s (c :: cs) = digitsValue (s * 10 + (c.toNat - '0'.toNat)) cs := rfl
    rw [front, front 0, ih, ih (0 * 10 + _), List.length_cons, pow_succ]
    ring

theorem digitsValue_cons (c : Char) (cs : List Char) :
    digitsValue 0 (c :: cs) = (c.toNat - '0'.toNat) * 10 ^ cs.length + digitsValue 0 cs := by
  show digitsValue (0 * 10 + (c.toNat - '0'.toNat)) cs = _
  rw [digitsValue_eq_add, Nat.zero_mul, Nat.zero_add]

theorem toNat_of_isDigit {c : Char} (h : isDigit c = true) : '0'.toNat ≤ c.toNat ∧ c.toNat ≤ '9'.toNat := by
  simp only [isDigit, Bool.and_eq_true, decide_eq_true_eq] at h
  exact h

/-- As many digits have no greater value than their number allows. -/
theorem digitsValue_lt {cs : List Char} (decimal : ∀ c ∈ cs, isDigit c = true) :
    digitsValue 0 cs < 10 ^ cs.length := by
  induction cs with
  | nil => decide
  | cons c cs ih =>
    have rest := ih (fun d hd => decimal d (List.mem_cons_of_mem c hd))
    have digit := (toNat_of_isDigit (decimal c List.mem_cons_self)).2
    have : c.toNat - '0'.toNat ≤ 9 := Nat.sub_le_of_le_add digit
    calc digitsValue 0 (c :: cs)
        = (c.toNat - '0'.toNat) * 10 ^ cs.length + digitsValue 0 cs := digitsValue_cons c cs
      _ < 9 * 10 ^ cs.length + 10 ^ cs.length :=
          Nat.add_lt_add_of_le_of_lt (Nat.mul_le_mul_right _ this) rest
      _ = 10 ^ (c :: cs).length := by rw [List.length_cons, pow_succ]; ring

/-- Zeros in front are worth nothing. -/
theorem digitsValue_zeros (n : Nat) : digitsValue 0 (List.replicate n '0') = 0 := by
  induction n with
  | zero => rfl
  | succ n ih =>
    rw [List.replicate_succ, digitsValue_cons, ih]
    simp

/-! ## The order of runs of one length -/

/-- The first digit in which two runs differ decides. -/
theorem lt_iff_digitsValue_lt {xs ys : List Char} (same : xs.length = ys.length)
    (left : ∀ c ∈ xs, isDigit c = true) (right : ∀ c ∈ ys, isDigit c = true) :
    xs < ys ↔ digitsValue 0 xs < digitsValue 0 ys := by
  -- on the first run, with the second kept as long: the first place outweighs all places behind it
  induction xs generalizing ys with
  | nil =>
    obtain rfl : ys = [] := List.eq_nil_of_length_eq_zero same.symm
    simp
  | cons c xs ih =>
    obtain ⟨d, ys, rfl⟩ := List.exists_cons_of_length_eq_add_one same.symm
    have same : xs.length = ys.length := Nat.succ.inj same
    have leftRest : ∀ e ∈ xs, isDigit e = true := fun e he => left e (List.mem_cons_of_mem c he)
    have rightRest : ∀ e ∈ ys, isDigit e = true := fun e he => right e (List.mem_cons_of_mem d he)
    have leftLow := digitsValue_lt leftRest
    have rightLow := digitsValue_lt rightRest
    have digitC := toNat_of_isDigit (left c List.mem_cons_self)
    have digitD := toNat_of_isDigit (right d List.mem_cons_self)
    rw [List.cons_lt_cons_iff, ih same leftRest rightRest, digitsValue_cons, digitsValue_cons, same]
    rw [same] at leftLow
    rcases lt_trichotomy c d with less | rfl | greater
    · -- a smaller digit leaves a whole unit of its place, more than what comes after can make up
      have less' : c.toNat - '0'.toNat + 1 ≤ d.toNat - '0'.toNat := by
        have : c.toNat < d.toNat := less
        omega
      have := Nat.mul_le_mul_right (10 ^ ys.length) less'
      rw [Nat.add_mul] at this
      exact iff_of_true (Or.inl less) (by omega)
    · simp
    · have greater' : d.toNat - '0'.toNat + 1 ≤ c.toNat - '0'.toNat := by
        have : d.toNat < c.toNat := greater
        omega
      have := Nat.mul_le_mul_right (10 ^ ys.length) greater'
      rw [Nat.add_mul] at this
      refine iff_of_false ?_ (by omega)
      rintro (less | ⟨rfl, -⟩)
      · exact absurd less (not_lt_of_gt greater)
      · exact absurd greater (lt_irrefl c)

/-- Runs of one length and one value are the same. -/
theorem eq_of_digitsValue_eq {xs ys : List Char} (same : xs.length = ys.length)
    (left : ∀ c ∈ xs, isDigit c = true) (right : ∀ c ∈ ys, isDigit c = true)
    (h : digitsValue 0 xs = digitsValue 0 ys) : xs = ys := by
  rcases lt_trichotomy xs ys with less | equal | greater
  · have := (lt_iff_digitsValue_lt same left right).mp less
    omega
  · exact equal
  · have := (lt_iff_digitsValue_lt same.symm right left).mp greater
    omega

/-- What stands behind two runs of one length decides only if the runs are the same. -/
theorem append_lt_append_iff {xs ys us vs : List Char} (same : xs.length = ys.length) :
    xs ++ us < ys ++ vs ↔ xs < ys ∨ xs = ys ∧ us < vs := by
  induction xs generalizing ys with
  | nil =>
    obtain rfl : ys = [] := List.eq_nil_of_length_eq_zero same.symm
    simp
  | cons c xs ih =>
    obtain ⟨d, ys, rfl⟩ := List.exists_cons_of_length_eq_add_one same.symm
    rw [List.cons_append, List.cons_append, List.cons_lt_cons_iff, List.cons_lt_cons_iff,
      ih (Nat.succ.inj same), List.cons.injEq]
    constructor
    · rintro (less | ⟨rfl, less | ⟨rfl, less⟩⟩)
      · exact .inl (.inl less)
      · exact .inl (.inr ⟨rfl, less⟩)
      · exact .inr ⟨⟨rfl, rfl⟩, less⟩
    · rintro ((less | ⟨rfl, less⟩) | ⟨⟨rfl, rfl⟩, less⟩)
      · exact .inl less
      · exact .inr ⟨rfl, .inl less⟩
      · exact .inr ⟨rfl, .inr ⟨rfl, less⟩⟩

/-! ## Fields -/

section

variable {width m n : Nat}

/-- A field has nothing but digits. -/
theorem isDigit_of_mem_padded {c : Char} (h : c ∈ padded width n) : isDigit c = true := by
  rcases List.mem_append.mp h with zero | digit
  · rw [(List.mem_replicate.mp zero).2]
    decide
  · exact Nat.isDigit_of_mem_toDigits (by decide) (by decide) digit

/-- A field has the value it was written for. -/
@[simp]
theorem digitsValue_padded : digitsValue 0 (padded width n) = n := by
  rw [padded, digitsValue_append, digitsValue_zeros, Text.digitsValue_eq_ofDigitChars,
    Nat.ofDigitChars_ten_toDigits]

/-- A field has its width, as long as its value fits. -/
theorem length_padded (positive : 0 < width) (h : n < 10 ^ width) : (padded width n).length = width := by
  have := (Nat.length_toDigits_le_iff (by decide) positive).mpr h
  rw [padded, List.length_append, List.length_replicate]
  omega

/-- Fields of one width are ordered as texts as their values are. -/
theorem padded_lt_iff (positive : 0 < width) (hm : m < 10 ^ width) (hn : n < 10 ^ width) :
    padded width m < padded width n ↔ m < n := by
  rw [lt_iff_digitsValue_lt ((length_padded positive hm).trans (length_padded positive hn).symm)
    (fun _ => isDigit_of_mem_padded) (fun _ => isDigit_of_mem_padded), digitsValue_padded,
    digitsValue_padded]

/-- Fields are the same if their values are. -/
theorem padded_inj : padded width m = padded width n ↔ m = n := by
  constructor
  · intro h
    have same := congrArg (digitsValue 0) h
    rwa [digitsValue_padded, digitsValue_padded] at same
  · exact fun h => h ▸ rfl

/-- A run of digits is the field of its value. -/
theorem padded_digitsValue {cs : List Char} (nonempty : cs ≠ []) (decimal : ∀ c ∈ cs, isDigit c = true) :
    padded cs.length (digitsValue 0 cs) = cs :=
  eq_of_digitsValue_eq (length_padded (List.length_pos_of_ne_nil nonempty) (digitsValue_lt decimal))
    (fun _ => isDigit_of_mem_padded) decimal digitsValue_padded

/-- What the reader of a field takes is a field as it is written, with anything behind it. -/
theorem takeNumber_eq_some_iff {cs rest : List Char} (positive : 0 < width) :
    takeNumber width cs = some (n, rest) ↔ n < 10 ^ width ∧ cs = padded width n ++ rest := by
  constructor
  · intro h
    simp only [takeNumber] at h
    split at h
    · rename_i full
      obtain ⟨long, decimal⟩ := full
      obtain ⟨rfl, rfl⟩ := Prod.mk.inj (Option.some.inj h)
      have decimal : ∀ c ∈ cs.take width, isDigit c = true := List.all_eq_true.mp decimal
      have value := digitsValue_lt decimal
      -- the digits taken are as many as the width, so they are the field of their value
      have field := padded_digitsValue (List.ne_nil_of_length_pos (long.symm ▸ positive)) decimal
      rw [long] at value field
      exact ⟨value, by rw [field, List.take_append_drop]⟩
    · cases h
  · rintro ⟨small, rfl⟩
    have long := length_padded positive small
    have decimal : (padded width n).all isDigit = true :=
      List.all_eq_true.mpr fun _ => isDigit_of_mem_padded
    rw [takeNumber, List.take_left' long, List.drop_left' long]
    exact (if_pos ⟨long, decimal⟩).trans (by rw [digitsValue_padded])

end

end TraceQuery.Time
