/-
  The grammar of JSON texts, apart from any scanner.

  A text is a row of lexemes with blanks in front, between and behind (`Spread`).  Which lexemes there are,
  and which rows of them are values, is said by productions; each stands beside the lemma that it is read.

  1. **Strings** (`StringText`): a character is written as it stands, by a short escape, or by its one or
     two code units, each as `\u` and four hexadecimal digits of either case.  Where nobody looks at a
     string, a code unit may also be half of a pair (`RawText`).
  2. **Numbers** (`NumberText`): an optional minus, digits without leading zeros, and perhaps digits after
     a point and an exponent.  What a number stands for is a decimal (`NumberText.value`), and its token has
     the double nearest to it (`NumberText.toDouble_token`).
  3. **Values** (`ValueRow`): the lexemes of any value, however deep.  They are the tokens of a complete
     node (`ValueRow.exists_node`), so that such a value can be passed over.
  4. **Enough** (`exists_stringText`, `NumberText.exists_numberText`): every string and every decimal can be
     written.
-/
import Mathlib.Data.List.Perm.Basic
import TraceQuery.Proofs.Filter.WireForms
import TraceQuery.Proofs.Json.Documents

namespace TraceQuery.Json

open TraceQuery.Decimal (Scaled)
open TraceQuery.Text (isDigit digitsValue Numeral Sign)

/-! ## Strings -/

/-- A hexadecimal digit, small or capital, and its value. -/
def HexDigit (v : Nat) (c : Char) : Prop :=
  v < 16 ∧ (c = Nat.digitChar v ∨ c = (Nat.digitChar v).toUpper)

/-- Whether a character is the digit of a value can be computed. -/
instance (v : Nat) (c : Char) : Decidable (HexDigit v c) := inferInstanceAs (Decidable (_ ∧ _))

/-- The four hexadecimal digits of a code unit. -/
inductive HexText (n : Nat) : List Char → Prop where
  | intro {a b c d : Char} : HexDigit (n / 4096) a → HexDigit (n / 256 % 16) b →
    HexDigit (n / 16 % 16) c → HexDigit (n % 16) d → HexText n [a, b, c, d]

/-- A character that may stand in a string as it is: no quote, no backslash and no control. -/
def isPlain (c : Char) : Bool := c != '\x22' && c != '\\' && 0x20 ≤ c.toNat

/-- The texts of a part of a string. -/
inductive PieceText : StringPart → List Char → Prop where
  | plain {c : Char} : isPlain c = true → PieceText (.char c) [c]
  | short {letter c : Char} : (letter, c) ∈ ('/', '/') :: shortEscapes →
    PieceText (.char c) ['\\', letter]
  | unit {n : Nat} {w : List Char} : HexText n w → PieceText (.unit n) ('\\' :: 'u' :: w)

/-- The texts of a character: a piece of its own, or its code units. -/
inductive CharText (c : Char) : List Char → Prop where
  | piece {w : List Char} : PieceText (.char c) w → CharText c w
  | unit {w : List Char} : c.toNat < 0x10000 → PieceText (.unit c.toNat) w → CharText c w
  | pair {u w : List Char} : 0x10000 ≤ c.toNat →
    PieceText (.unit (0xd800 + (c.toNat - 0x10000) / 0x400)) u →
    PieceText (.unit (0xdc00 + (c.toNat - 0x10000) % 0x400)) w → CharText c (u ++ w)

/-- Pieces between quotes. -/
def quotation (pieces : List (List Char)) : List Char := '\x22' :: (pieces.flatten ++ ['\x22'])

/-- The texts of a string. -/
def StringText (s : String) (w : List Char) : Prop :=
  ∃ ws, List.Forall₂ CharText s.toList ws ∧ w = quotation ws

/-- The texts of any string, also of one in which a code unit is half of a pair. -/
def RawText (w : List Char) : Prop :=
  ∃ parts ws, List.Forall₂ PieceText parts ws ∧ w = quotation ws

/-- Something for each member of a list is a list. -/
theorem exists_forall₂ {α β : Type} {R : α → β → Prop} {bs : List β} (h : ∀ b ∈ bs, ∃ a, R a b) :
    ∃ as, List.Forall₂ R as bs := by
  induction bs with
  | nil => exact ⟨[], .nil⟩
  | cons b bs ih =>
    obtain ⟨a, first⟩ := h b List.mem_cons_self
    obtain ⟨as, rest⟩ := ih fun c hc => h c (List.mem_cons_of_mem b hc)
    exact ⟨a :: as, .cons first rest⟩

section Strings

variable {c : Char} {n : Nat} {s : String} {w : List Char} {parts : List StringPart}
  {ws : List (List Char)}

/-- Small and capital digits are read alike. -/
theorem hexValue?_of_hexDigit {v : Nat} (h : HexDigit v c) : hexValue? c = some v := by
  have both : ∀ v < 16, hexValue? (Nat.digitChar v) = some v ∧
      hexValue? (Nat.digitChar v).toUpper = some v := by decide
  obtain ⟨below, rfl | rfl⟩ := h
  · exact (both v below).1
  · exact (both v below).2

/-- The digits of a code unit are four, and they are read. -/
theorem exists_hexUnit? (h : HexText n w) :
    ∃ a b c d, w = [a, b, c, d] ∧ hexUnit? a b c d = some n := by
  obtain ⟨ha, hb, hc, hd⟩ := h
  refine ⟨_, _, _, _, rfl, ?_⟩
  rw [hexUnit?, hexValue?_of_hexDigit ha, hexValue?_of_hexDigit hb, hexValue?_of_hexDigit hc,
    hexValue?_of_hexDigit hd]
  show some _ = some n
  congr 1
  omega

/-- A piece is taken off the front of a text. -/
theorem scanString_piece {part : StringPart} (h : PieceText part w) (cs : List Char) :
    scanString (w ++ cs) = (scanString cs).bind fun (parts, rest) => some (part :: parts, rest) := by
  cases h with
  | @plain c plain =>
    simp only [isPlain, Bool.and_eq_true, bne_iff_ne, decide_eq_true_eq] at plain
    have noControl : ¬c.toNat < 0x20 := by omega
    simp [scanString, plain, noControl]
  | @short letter c known =>
    have all : (('/', '/') :: shortEscapes).all (fun e => decide (e.1 ≠ 'u' ∧ shortEscape? e.1 = some e.2))
        = true := by decide
    obtain ⟨noUnit, short⟩ := of_decide_eq_true (List.all_eq_true.mp all _ known)
    simp [scanString, noUnit, short]
  | unit hex =>
    obtain ⟨a, b, c, d, rfl, unit⟩ := exists_hexUnit? hex
    simp [scanString, unit]

/-- Pieces up to a quote are read as the parts that they are written for. -/
theorem scanString_pieces (h : List.Forall₂ PieceText parts ws) (cs : List Char) :
    scanString (ws.flatten ++ '\x22' :: cs) = some (parts, cs) := by
  induction h with
  | nil => simp [scanString]
  | cons piece _ ih =>
    rw [List.flatten_cons, List.append_assoc, scanString_piece piece, ih]
    rfl

/-- The halves of a pair of code units are told by their ranges. -/
theorem isLowSurrogate_iff : isLowSurrogate n = true ↔ 0xdc00 ≤ n ∧ n < 0xe000 := by
  simp [isLowSurrogate]

theorem isHighSurrogate_iff : isHighSurrogate n = true ↔ 0xd800 ≤ n ∧ n < 0xdc00 := by
  simp [isHighSurrogate]

/-- A character is written with pieces that stand for it, whatever follows. -/
theorem CharText.exists_parts (h : CharText c w) :
    ∃ parts ws, List.Forall₂ PieceText parts ws ∧ ws.flatten = w ∧
      ∀ rest, joinParts (parts ++ rest) = (joinParts rest).map (c :: ·) := by
  -- a character is no surrogate, so a code unit below the pairs stands for itself
  have range : c.toNat < 0xd800 ∨ 0xdfff < c.toNat ∧ c.toNat < 0x110000 := c.valid
  cases h with
  | piece piece => exact ⟨[.char c], [w], .cons piece .nil, by simp, fun rest => rfl⟩
  | unit below piece =>
    refine ⟨[.unit c.toNat], [w], .cons piece .nil, by simp, fun rest => ?_⟩
    have low : ¬isLowSurrogate c.toNat = true := by
      rw [isLowSurrogate_iff]
      omega
    have high : ¬isHighSurrogate c.toNat = true := by
      rw [isHighSurrogate_iff]
      omega
    rw [List.singleton_append, joinParts.eq_def]
    simp [low, high]
  | @pair u w above first second =>
    refine ⟨[.unit _, .unit _], [u, w], .cons first (.cons second .nil), by simp, fun rest => ?_⟩
    have low : ¬isLowSurrogate (0xd800 + (c.toNat - 0x10000) / 0x400) = true := by
      rw [isLowSurrogate_iff]
      omega
    have high := isHighSurrogate_iff (n := 0xd800 + (c.toNat - 0x10000) / 0x400).mpr (by omega)
    have behind := isLowSurrogate_iff (n := 0xdc00 + (c.toNat - 0x10000) % 0x400).mpr (by omega)
    -- what the pair took apart is put together again
    have same : 0x10000 + (0xd800 + (c.toNat - 0x10000) / 0x400 - 0xd800) * 0x400 +
        (0xdc00 + (c.toNat - 0x10000) % 0x400 - 0xdc00) = c.toNat := by omega
    simp only [List.cons_append, List.nil_append, joinParts, low, high, behind, pairedChar, same,
      Char.ofNat_toNat, if_true, Bool.false_eq_true, if_false]

/-- The texts of the characters of a string, piece by piece. -/
theorem exists_parts {cs : List Char} (h : List.Forall₂ CharText cs ws) :
    ∃ parts us, List.Forall₂ PieceText parts us ∧ us.flatten = ws.flatten ∧
      joinParts parts = some cs := by
  induction h with
  | nil => exact ⟨[], [], .nil, rfl, rfl⟩
  | @cons c w cs ws char _ ih =>
    obtain ⟨front, us, pieces, flat, joined⟩ := char.exists_parts
    obtain ⟨parts, vs, pieces', flat', joined'⟩ := ih
    refine ⟨front ++ parts, us ++ vs, List.rel_append pieces pieces', ?_, ?_⟩
    · rw [List.flatten_append, flat, flat', List.flatten_cons]
    · rw [joined, joined', Option.map_some]

/-- Pieces between quotes are one lexeme. -/
theorem lexeme_quotation (h : List.Forall₂ PieceText parts ws) :
    Lexeme (stringToken parts) (quotation ws) := by
  refine ⟨'\x22', _, rfl, ?_⟩
  show (scanString (ws.flatten ++ ['\x22'])).map _ = _
  rw [scanString_pieces h]
  rfl

/-- The texts of a string are read as the string. -/
theorem StringText.lexeme (h : StringText s w) : Lexeme (.scalar (.string s)) w := by
  obtain ⟨ws, chars, rfl⟩ := h
  obtain ⟨parts, us, pieces, flat, joined⟩ := exists_parts chars
  have read := lexeme_quotation pieces
  have token : stringToken parts = .scalar (.string s) := by simp [stringToken, joined]
  rw [token, quotation, flat] at read
  exact read

/-- A string of such characters may be written as it stands. -/
theorem StringText.plain (plain : s.toList.all isPlain = true) :
    StringText s ('\x22' :: (s.toList ++ ['\x22'])) := by
  refine ⟨s.toList.map fun c => [c], ?_, by rw [quotation, ← List.flatMap_def, List.flatMap_singleton']⟩
  exact List.forall₂_map_right_iff.mpr (List.forall₂_same.mpr fun c hc =>
    .piece (.plain (List.all_eq_true.mp plain c hc)))

/-- Every string can be written, by code units where it has to be. -/
theorem exists_stringText (s : String) : ∃ w, StringText s w := by
  have each : ∀ c ∈ s.toList, ∃ w, CharText c w := by
    intro c _
    cases plain : isPlain c with
    | true => exact ⟨[c], .piece (.plain plain)⟩
    -- what cannot stand as it is lies far below the pairs, so one code unit is enough
    | false =>
      have low : c.toNat < 0x10000 := by
        by_contra high
        have noQuote : c ≠ '\x22' := fun same => high (same ▸ by decide)
        have noSlash : c ≠ '\\' := fun same => high (same ▸ by decide)
        have visible : 0x20 ≤ c.toNat := by omega
        simp [isPlain, noQuote, noSlash, visible] at plain
      exact ⟨_, .unit low (.unit (.intro ⟨by omega, .inl rfl⟩ ⟨by omega, .inl rfl⟩ ⟨by omega, .inl rfl⟩
        ⟨by omega, .inl rfl⟩))⟩
  obtain ⟨ws, chars⟩ := exists_forall₂ each
  exact ⟨_, ws, chars.flip, rfl⟩

/-- The texts of any string are read as a key, which may be unreadable. -/
theorem RawText.exists_key (h : RawText w) :
    ∃ k : Node, k.isComplete = true ∧ k.tokens = [k.keyToken] ∧ Lexeme k.keyToken w := by
  obtain ⟨parts, ws, pieces, rfl⟩ := h
  have read := lexeme_quotation pieces
  cases joined : joinParts parts with
  | none =>
    have token : stringToken parts = .unreadable := by simp [stringToken, joined]
    rw [token] at read
    exact ⟨.unreadable, rfl, rfl, read⟩
  | some cs =>
    have token : stringToken parts = .scalar (.string (String.ofList cs)) := by simp [stringToken, joined]
    rw [token] at read
    exact ⟨.scalar (.string (String.ofList cs)), rfl, rfl, read⟩

end Strings

/-! ## Numbers -/

/-- A number as it is written: an integer, the digits after the point if there are any, and the exponent
    with its letter. -/
structure NumberText where
  whole : Numeral
  fraction : List Char
  exponent : Option (Char × Numeral)
  noPlus : whole.sign ≠ .plus
  noLeadingZero : whole.digits.head? = some '0' → whole.digits = ['0']
  decimal : ∀ c ∈ fraction, isDigit c = true
  letter : ∀ e ∈ exponent, e.1 = 'e' ∨ e.1 = 'E'

namespace NumberText

/-- The point and the digits after it. -/
def fractionChars (t : NumberText) : List Char :=
  if t.fraction = [] then [] else '.' :: t.fraction

/-- The exponent with its letter, if there is one. -/
def exponentChars (t : NumberText) : List Char :=
  match t.exponent with
  | none => []
  | some (letter, n) => letter :: (n.sign.chars ++ n.digits)

/-- The characters of a number. -/
def chars (t : NumberText) : List Char :=
  t.whole.sign.chars ++ (t.whole.digits ++ (t.fractionChars ++ t.exponentChars))

/-- The decimal that the number stands for. -/
def value (t : NumberText) : Scaled where
  negative := t.whole.sign.isNegative
  coefficient := digitsValue 0 (t.whole.digits ++ t.fraction)
  exponent := (t.exponent.elim 0 fun e => e.2.value) - t.fraction.length

/-- The token that is read. -/
def token (t : NumberText) : Token :=
  numberToken t.whole.sign.isNegative t.whole.digits t.fraction (t.exponent.map fun e => e.2.value)

variable (t : NumberText)

/-- The digits behind the point are read to their end, wherever that is not more of a whole number. -/
theorem scanFraction_chars {cs : List Char} (behind : Avoids extendsWhole cs) :
    scanFraction (t.fractionChars ++ cs) = some (t.fraction, cs) := by
  unfold fractionChars
  split
  · rename_i none
    rw [none, List.nil_append]
    cases cs with
    | nil => rfl
    | cons c cs =>
      have noPoint : c ≠ '.' := fun e => absurd (e ▸ behind c rfl) (by decide)
      simp [scanFraction, noPoint]
  · rename_i some
    obtain ⟨taken, dropped⟩ := span_append t.decimal (behind.mono extendsWhole_of_isDigit)
    rw [List.cons_append, scanFraction, taken, dropped, if_neg (by simpa using some)]

/-- An exponent begins with its letter, which is neither a digit nor a point. -/
theorem avoids_exponentChars : Avoids extendsWhole t.exponentChars := by
  unfold exponentChars
  split
  · exact .nil
  · rename_i letter n some
    have isLetter : letter = 'e' ∨ letter = 'E' := t.letter _ some
    rcases isLetter with rfl | rfl
    · exact .cons (by decide)
    · exact .cons (by decide)

/-- The digits of an exponent have the value of the exponent. -/
theorem scanExponentDigits_digits (n : Numeral) :
    scanExponentDigits n.sign.isNegative n.digits = some (some n.value, []) := by
  obtain ⟨taken, dropped⟩ := span_append n.decimal (Avoids.nil (p := isDigit))
  rw [List.append_nil] at taken dropped
  rw [scanExponentDigits, taken, dropped, if_neg (by simpa using n.nonempty), n.digitsValue_digits]
  rfl

/-- An exponent is a numeral after its letter. -/
theorem scanExponent_numeral {letter : Char} (isLetter : letter = 'e' ∨ letter = 'E') (n : Numeral) :
    scanExponent (letter :: (n.sign.chars ++ n.digits)) = some (some n.value, []) := by
  have digits := scanExponentDigits_digits n
  cases sign : n.sign with
  | unsigned =>
    obtain ⟨d, ds, split⟩ := List.exists_cons_of_ne_nil n.nonempty
    have digit : isDigit d = true := n.decimal d (by simp [split])
    have noMinus : d ≠ '-' := fun e => absurd (e ▸ digit) (by decide)
    have noPlus : d ≠ '+' := fun e => absurd (e ▸ digit) (by decide)
    rw [sign, split] at digits
    rw [split]
    simpa [scanExponent, isLetter, Sign.chars, Sign.isNegative, noMinus, noPlus] using digits
  | plus =>
    rw [sign] at digits
    simpa [scanExponent, isLetter, Sign.chars, Sign.isNegative] using digits
  | minus =>
    rw [sign] at digits
    simpa [scanExponent, isLetter, Sign.chars, Sign.isNegative] using digits

/-- The exponent of a number is read, and nothing is left. -/
theorem scanExponent_chars :
    scanExponent t.exponentChars = some (t.exponent.map fun e => e.2.value, []) := by
  unfold exponentChars
  split
  · rename_i none
    rw [none]
    rfl
  · rename_i letter n some
    rw [some]
    exact scanExponent_numeral (t.letter _ some) n

/-- After its first digit a number is read to its end. -/
theorem scanNumber_chars {d : Char} {ds : List Char} (split : t.whole.digits = d :: ds) :
    scanNumber t.whole.sign.isNegative d (ds ++ (t.fractionChars ++ t.exponentChars)) =
      some (t.token, []) := by
  have decimal : ∀ c ∈ ds, isDigit c = true := fun c hc => t.whole.decimal c (by simp [split, hc])
  have behind : Avoids isDigit (t.fractionChars ++ t.exponentChars) := by
    refine .append ?_ (t.avoids_exponentChars.mono extendsWhole_of_isDigit)
    unfold fractionChars
    split
    · exact .nil
    · exact .cons (by decide)
  obtain ⟨taken, dropped⟩ := span_append decimal behind
  -- a zero in front is the only digit
  have leads : (d = '0' && !ds.isEmpty) = false := by
    by_cases zero : d = '0'
    · have single := t.noLeadingZero (by rw [split, zero]; rfl)
      rw [split, List.cons.injEq] at single
      simp [single.2]
    · simp [zero]
  rw [scanNumber, taken, dropped, if_neg (by simpa using leads),
    t.scanFraction_chars t.avoids_exponentChars]
  show (scanExponent t.exponentChars).bind _ = _
  rw [t.scanExponent_chars, token, split]
  rfl

/-- A number is read as its token. -/
theorem lexeme : Lexeme t.token t.chars := by
  obtain ⟨d, ds, split⟩ := List.exists_cons_of_ne_nil t.whole.nonempty
  have digit : isDigit d = true := t.whole.decimal d (by simp [split])
  have read := t.scanNumber_chars split
  rw [chars, split]
  cases sign : t.whole.sign with
  | unsigned =>
    rw [sign] at read
    refine ⟨d, _, rfl, ?_⟩
    rw [scanToken_digit digit]
    exact read
  | plus => exact absurd sign t.noPlus
  | minus =>
    rw [sign] at read
    refine ⟨'-', _, rfl, ?_⟩
    show (if isDigit d then scanNumber true d _ else none) = _
    rw [if_pos digit]
    exact read

/-- A number that is an integer of 64 bits is kept as one, with the same double. -/
theorem toDouble_integer {negative : Bool} {n : Nat} (below : negative = true → 0 < n) :
    (Number.integer (if negative then -Int.ofNat n else Int.ofNat n)).toDouble =
      Scaled.toDouble ⟨negative, n, 0⟩ := by
  cases negative with
  | false =>
    have sign : ¬(n : Int) < 0 := by omega
    simp [Number.toDouble, sign]
  | true =>
    have sign := below rfl
    simp [Number.toDouble, sign]

/-- The double of the token is the one nearest to the number. -/
theorem toDouble_token {x : Decimal.Finite} (h : t.value.toDouble = .finite x) :
    ∃ n : Number, t.token = .scalar (.number n) ∧ n.toDouble = .finite x := by
  have float {d : Scaled} (h : d.toDouble = .finite x) :
      ∃ n : Number, floatToken d = .scalar (.number n) ∧ n.toDouble = .finite x :=
    ⟨.float x, by rw [floatToken, h], rfl⟩
  unfold token numberToken
  simp only
  -- an integer in range is kept as one; anything with a point or an exponent, and any other integer, is a
  -- double
  split
  · rename_i plain
    have point : t.fraction = [] := by simp_all
    have bare : t.exponent = none := by simp_all
    have value : t.value = ⟨t.whole.sign.isNegative, digitsValue 0 t.whole.digits, 0⟩ := by
      simp [NumberText.value, point, bare]
    rw [value] at h
    cases sign : t.whole.sign.isNegative with
    | false =>
      rw [sign] at h
      rw [if_neg Bool.false_ne_true]
      split
      · refine ⟨_, rfl, ?_⟩
        rw [← h, ← toDouble_integer (by simp)]
        rfl
      · exact float h
    | true =>
      rw [sign] at h
      rw [if_pos rfl]
      split
      · rename_i fits
        refine ⟨_, rfl, ?_⟩
        rw [← h, ← toDouble_integer fun _ => fits.1]
        rfl
      · exact float h
  · refine float ?_
    rw [← h, NumberText.value]
    cases t.exponent <;> rfl

/-- Every decimal can be written: its digits after a point, and the exponent that puts it in its place. -/
theorem exists_numberText (d : Scaled) : ∃ t : NumberText, t.value = d := by
  obtain ⟨negative, coefficient, exponent⟩ := d
  -- all digits stand behind the point, and the exponent moves it back to where it belongs
  let digits := Nat.toDigits 10 coefficient
  let t : NumberText :=
    { whole := ⟨if negative then .minus else .unsigned, ['0'], by simp, List.all_eq_true.mp rfl⟩
      fraction := digits
      exponent := some ('e', .ofInt (exponent + digits.length))
      noPlus := by cases negative <;> simp
      noLeadingZero := fun _ => rfl
      decimal := fun c hc => Nat.isDigit_of_mem_toDigits (by decide) (by decide) hc
      letter := by simp }
  have read : digitsValue 0 digits = coefficient := by
    rw [Text.digitsValue_eq_ofDigitChars]
    exact Nat.ofDigitChars_ten_toDigits
  refine ⟨t, ?_⟩
  have sign : t.value.negative = negative := by cases negative <;> rfl
  have place : t.value.exponent = exponent := by
    show (Numeral.ofInt _).value - (digits.length : Int) = exponent
    rw [Text.Numeral.value_ofInt]
    omega
  show (⟨t.value.negative, digitsValue 0 digits, t.value.exponent⟩ : Scaled) = _
  rw [sign, place, read]

end NumberText

/-! ## Rows of lexemes -/

/-- Lexemes in a row. -/
abbrev Lexemes := List (List Char)

/-- The texts of a row: its lexemes in order, and blanks in front, between and behind. -/
inductive Spread : Lexemes → List Char → Prop where
  | nil : Spread [] []
  | blank {c : Char} {row : Lexemes} {cs : List Char} :
    c ∈ [' ', '\t', '\n', '\r'] → Spread row cs → Spread row (c :: cs)
  | lexeme {w : List Char} {row : Lexemes} {cs : List Char} : Spread row cs → Spread (w :: row) (w ++ cs)

/-- Rows between two signs, with a comma between any two of them. -/
def enclosed (opening : Char) (rows : List Lexemes) (closing : Char) : Lexemes :=
  [opening] :: ((match rows with
    | [] => []
    | row :: rest => row ++ rest.flatMap fun row => [','] :: row) ++ [[closing]])

/-- The rows of a value. -/
inductive ValueRow : Lexemes → Prop where
  | word {w : List Char} : w ∈ [['n', 'u', 'l', 'l'], ['t', 'r', 'u', 'e'], ['f', 'a', 'l', 's', 'e']] →
    ValueRow [w]
  | number (t : NumberText) : ValueRow [t.chars]
  | string {w : List Char} : RawText w → ValueRow [w]
  | array {rows : List Lexemes} : (∀ row ∈ rows, ValueRow row) → ValueRow (enclosed '[' rows ']')
  | object {members : List (List Char × Lexemes)} : (∀ m ∈ members, RawText m.1) →
    (∀ m ∈ members, ValueRow m.2) →
    ValueRow (enclosed '\x7b' (members.map fun m => m.1 :: [':'] :: m.2) '\x7d')

/-- A row of lexemes that are read as some tokens. -/
def Spells (ts : List Token) (row : Lexemes) : Prop := List.Forall₂ Lexeme ts row

section Rows

variable {ts us : List Token} {row : Lexemes} {cs : List Char}

/-- The texts of a row spell what its lexemes are read as. -/
theorem spaced_of_spread (h : Spells ts row) (spread : Spread row cs) : Spaced ts cs := by
  induction spread generalizing ts with
  | nil =>
    cases h
    exact .nil
  | blank blank _ ih => exact .blank (by simpa [isJsonBlank, or_assoc] using blank) (ih h)
  | lexeme _ ih =>
    cases h with
    | cons lexeme rest => exact .token lexeme (ih rest)

/-- No blanks have to stand between lexemes. -/
theorem spread_flatten (row : Lexemes) : Spread row row.flatten := by
  induction row with
  | nil => exact .nil
  | cons w row ih => exact .lexeme ih

theorem lexeme_sign {c : Char} {t : Token} (h : (c, t) ∈ signs) : Lexeme t [c] :=
  ⟨c, [], rfl, (scanToken_sign h []).2.2⟩

theorem Spells.append {row' : Lexemes} (h : Spells ts row) (h' : Spells us row') :
    Spells (ts ++ us) (row ++ row') := List.rel_append h h'

theorem Spells.comma (h : Spells ts row) : Spells (.comma :: ts) ([','] :: row) :=
  .cons (lexeme_sign (by decide)) h

/-- The row of a member of an object. -/
def SpellsMember (m : Node × Node) (row : Lexemes) : Prop :=
  Spells (m.1.keyToken :: .colon :: m.2.tokens) row

/-- Further items, each behind a comma. -/
theorem spells_moreItems {items : List Node} {rows : List Lexemes}
    (h : List.Forall₂ (fun n row => Spells n.tokens row) items rows) :
    Spells (moreItems items) (rows.flatMap fun row => [','] :: row) := by
  induction h with
  | nil => exact .nil
  | cons item _ ih => exact item.comma.append ih

/-- Further members, each behind a comma. -/
theorem spells_moreMembers {members : List (Node × Node)} {rows : List Lexemes}
    (h : List.Forall₂ SpellsMember members rows) :
    Spells (moreMembers members) (rows.flatMap fun row => [','] :: row) := by
  induction h with
  | nil => exact .nil
  | cons member _ ih => exact (Spells.comma member).append ih

/-- The row of an array is read as the array of its items. -/
theorem spells_array {items : List Node} {rows : List Lexemes}
    (h : List.Forall₂ (fun n row => Spells n.tokens row) items rows) :
    Spells (Node.array items true).tokens (enclosed '[' rows ']') := by
  have closing : Spells [.closeBracket] [[']']] := .cons (lexeme_sign (by decide)) .nil
  refine .cons (lexeme_sign (by decide)) (Spells.append ?_ closing)
  cases h with
  | nil => exact .nil
  | cons item rest => exact Spells.append item (spells_moreItems rest)

/-- The row of an object is read as the object of its members. -/
theorem spells_object {members : List (Node × Node)} {rows : List Lexemes}
    (h : List.Forall₂ SpellsMember members rows) :
    Spells (Node.object members true).tokens (enclosed '\x7b' rows '\x7d') := by
  have closing : Spells [.closeBrace] [['\x7d']] := .cons (lexeme_sign (by decide)) .nil
  refine .cons (lexeme_sign (by decide)) (Spells.append ?_ closing)
  cases h with
  | nil => exact .nil
  | cons member rest => exact Spells.append member (spells_moreMembers rest)

/-- A number, which may be too large for a double, is read as a complete node. -/
theorem NumberText.exists_node (t : NumberText) :
    ∃ n : Node, n.isComplete = true ∧ Spells n.tokens [t.chars] := by
  have scalar : t.token.isScalar = true := isScalar_numberToken _ _ _ _
  have lexeme := t.lexeme
  cases token : t.token with
  | scalar s => exact ⟨.scalar s, rfl, .cons (token ▸ lexeme) .nil⟩
  | unreadable => exact ⟨.unreadable, rfl, .cons (token ▸ lexeme) .nil⟩
  | _ =>
    rw [token] at scalar
    cases scalar

theorem itemsComplete_iff {items : List Node} :
    itemsComplete items = true ↔ ∀ n ∈ items, n.isComplete = true := by
  induction items with
  | nil => simp [itemsComplete]
  | cons n items ih => simp [itemsComplete, ih]

/-- Members are complete if the key and the value of each of them are. -/
theorem membersComplete_iff {members : List (Node × Node)} :
    membersComplete members = true ↔ ∀ m ∈ members, m.1.isComplete = true ∧ m.2.isComplete = true := by
  induction members with
  | nil => simp [membersComplete]
  | cons m members ih => simp [membersComplete, ih, and_assoc]

/-- The row of a value is read as a complete node. -/
theorem ValueRow.exists_node (h : ValueRow row) :
    ∃ n : Node, n.isComplete = true ∧ Spells n.tokens row := by
  -- by recursion on the value, which is that of its rows
  induction h with
  | @word w known =>
    simp only [List.mem_cons, List.not_mem_nil, or_false] at known
    rcases known with rfl | rfl | rfl
    · exact ⟨.scalar .null, rfl, .cons ⟨_, _, rfl, rfl⟩ .nil⟩
    · exact ⟨.scalar (.bool true), rfl, .cons ⟨_, _, rfl, rfl⟩ .nil⟩
    · exact ⟨.scalar (.bool false), rfl, .cons ⟨_, _, rfl, rfl⟩ .nil⟩
  | number t => exact t.exists_node
  | string raw =>
    obtain ⟨k, complete, single, lexeme⟩ := raw.exists_key
    exact ⟨k, complete, single ▸ .cons lexeme .nil⟩
  | @array rows _ ih =>
    obtain ⟨items, spelled⟩ := exists_forall₂ ih
    obtain ⟨complete, spells⟩ := (List.forall₂_and_left _ _).mp spelled
    refine ⟨.array items true, ?_, spells_array spells⟩
    rw [Node.isComplete, itemsComplete_iff.mpr complete, Bool.and_self]
  -- keys are read whether they are strings or not; each value has its node by the recursion
  | @object members keys _ ih =>
    have each : ∀ m ∈ members, ∃ node : Node × Node,
        (node.1.isComplete = true ∧ node.2.isComplete = true) ∧
          SpellsMember node (m.1 :: [':'] :: m.2) := by
      intro m hm
      obtain ⟨k, readable, _, lexeme⟩ := (keys m hm).exists_key
      obtain ⟨n, complete, spells⟩ := ih m hm
      exact ⟨(k, n), ⟨readable, complete⟩, .cons lexeme (.cons (lexeme_sign (by decide)) spells)⟩
    obtain ⟨nodes, spelled⟩ := exists_forall₂ each
    obtain ⟨complete, spells⟩ := (List.forall₂_and_left _ _).mp spelled
    refine ⟨.object nodes true, ?_, spells_object (List.forall₂_map_right_iff.mpr spells)⟩
    rw [Node.isComplete, membersComplete_iff.mpr complete, Bool.and_self]

end Rows

end TraceQuery.Json
