/-
  How tokens are spelled, and the blanks between them.

  A text is a spelling of a row of tokens if it is made of one lexeme for each of them, in order, with
  any number of blanks in front, between and behind (`Spaced`).

  1. **Lexemes** (`scanToken_cases`): what a token takes off the front of a text is read as that token
     whatever follows it.  Only a number has to see its end: it is followed by nothing that goes on with
     it (`Stops`).
  2. **Reading a spelling** (`tokens_of_spaced`): where no two scalars are neighbours (`Apart`), every
     number is followed by a blank or a sign, so the tokens of a spelling are those it was made of,
     whatever the blanks.
  3. **Spelling what was read** (`spaced_of_tokens`): a text that is read without a fault is a spelling
     of what is read.
-/
import Mathlib.Data.List.Chain
import TraceQuery.Json.Token

namespace TraceQuery.Json

open TraceQuery.Text (isDigit)

/-! ## Ends -/

/-- A text does not begin with a character of a class. -/
def Avoids (p : Char → Bool) (cs : List Char) : Prop := ∀ c ∈ cs.head?, p c = false

/-- The characters that go on with a number. -/
def extendsNumber (c : Char) : Bool := isDigit c || c == '.' || c == 'e' || c == 'E'

/-- A text that goes on with no number in front of it. -/
def Stops (cs : List Char) : Prop := Avoids extendsNumber cs

section Ends

variable {p q : Char → Bool} {xs ys : List Char}

theorem Avoids.nil : Avoids p [] := by
  intro c hc
  cases hc

theorem Avoids.cons {c : Char} (h : p c = false) : Avoids p (c :: xs) := by
  intro d hd
  rw [← Option.some.inj hd]
  exact h

theorem Avoids.append (hx : Avoids p xs) (hy : Avoids p ys) : Avoids p (xs ++ ys) := by
  cases xs with
  | nil => exact hy
  | cons c xs => exact .cons (hx c rfl)

theorem Avoids.mono (h : Avoids q xs) (wider : ∀ c, p c = true → q c = true) : Avoids p xs := by
  intro c hc
  cases hp : p c with
  | false => rfl
  | true => exact absurd (wider c hp) (by rw [h c hc]; decide)

/-- A run of characters of a class ends where a text begins that avoids the class. -/
theorem span_append (hx : ∀ c ∈ xs, p c = true) (hy : Avoids p ys) :
    (xs ++ ys).takeWhile p = xs ∧ (xs ++ ys).dropWhile p = ys := by
  rw [List.takeWhile_append_of_pos hx, List.dropWhile_append_of_pos hx]
  cases ys with
  | nil => simp
  | cons c ys =>
    have stop : p c = false := hy c rfl
    simp [stop]

theorem mem_takeWhile (cs : List Char) : ∀ c ∈ cs.takeWhile p, p c = true :=
  List.all_eq_true.mp List.all_takeWhile

end Ends

/-! ## Strings -/

/-- A string is read the same whatever follows its closing quote. -/
theorem scanString_cut {cs rest : List Char} {parts : List StringPart}
    (h : scanString cs = some (parts, rest)) :
    ∃ w, cs = w ++ rest ∧ ∀ ys, scanString (w ++ ys) = some (parts, ys) := by
  -- along the scanner: an escaped code unit, a short escape, the closing quote, or a character as it stands
  fun_induction scanString cs generalizing parts rest with
  | case1 => cases h
  | case2 a b c d tail ih =>
    simp only [Option.bind_eq_bind, Option.bind_eq_some_iff, Option.some.injEq, Prod.mk.injEq] at h
    obtain ⟨n, unit, ⟨parts', rest'⟩, scanned, rfl, rfl⟩ := h
    obtain ⟨w, rfl, same⟩ := ih scanned
    refine ⟨'\\' :: 'u' :: a :: b :: c :: d :: w, rfl, fun ys => ?_⟩
    simp [scanString, unit, same ys]
  | case3 letter tail unlike ih =>
    simp only [Option.bind_eq_bind, Option.bind_eq_some_iff, Option.some.injEq, Prod.mk.injEq] at h
    obtain ⟨c, short, ⟨parts', rest'⟩, scanned, rfl, rfl⟩ := h
    obtain ⟨w, rfl, same⟩ := ih scanned
    refine ⟨'\\' :: letter :: w, rfl, fun ys => ?_⟩
    have noUnit : letter ≠ 'u' := by
      rintro rfl
      rw [show shortEscape? 'u' = none by decide] at short
      cases short
    simp [scanString, noUnit, short, same ys]
  | case4 tail =>
    simp only [Option.some.injEq, Prod.mk.injEq] at h
    obtain ⟨rfl, rfl⟩ := h
    exact ⟨['\x22'], rfl, fun ys => by simp [scanString]⟩
  | case5 => cases h
  | case6 c tail _ _ noQuote plain ih =>
    simp only [Option.bind_eq_bind, Option.bind_eq_some_iff, Option.some.injEq, Prod.mk.injEq] at h
    obtain ⟨⟨parts', rest'⟩, scanned, rfl, rfl⟩ := h
    obtain ⟨w, rfl, same⟩ := ih scanned
    refine ⟨c :: w, rfl, fun ys => ?_⟩
    simp only [not_or] at plain
    simp [scanString, noQuote, plain, same ys]

/-! ## Numbers -/

/-- The characters that go on with the digits before a point. -/
def extendsWhole (c : Char) : Bool := isDigit c || c == '.'

/-- The characters that go on with an exponent, or begin one. -/
def extendsExponent (c : Char) : Bool := isDigit c || c == 'e' || c == 'E'

theorem extendsWhole_of_isDigit (c : Char) (h : isDigit c = true) : extendsWhole c = true := by
  simp [extendsWhole, h]

theorem extendsNumber_of_extendsWhole (c : Char) (h : extendsWhole c = true) :
    extendsNumber c = true := by
  simp only [extendsWhole, Bool.or_eq_true] at h
  rcases h with h | h <;> simp [extendsNumber, h]

theorem extendsNumber_of_extendsExponent (c : Char) (h : extendsExponent c = true) :
    extendsNumber c = true := by
  simp only [extendsExponent, Bool.or_eq_true] at h
  rcases h with (h | h) | h <;> simp [extendsNumber, h]

/-- A fraction is read the same whatever follows, unless that goes on with a whole number. -/
theorem scanFraction_cut {cs fraction rest : List Char}
    (h : scanFraction cs = some (fraction, rest)) :
    ∃ w, cs = w ++ rest ∧ Avoids isDigit w ∧
      ∀ ys, Avoids extendsWhole ys → scanFraction (w ++ ys) = some (fraction, ys) := by
  unfold scanFraction at h
  split at h
  · rename_i tail
    split at h
    · cases h
    · rename_i nonempty
      simp only [Option.some.injEq, Prod.mk.injEq] at h
      obtain ⟨rfl, rfl⟩ := h
      refine ⟨'.' :: tail.takeWhile isDigit, ?_, .cons (by decide), fun ys hy => ?_⟩
      · rw [List.cons_append, List.takeWhile_append_dropWhile]
      · obtain ⟨taken, dropped⟩ := span_append (mem_takeWhile tail)
          (hy.mono extendsWhole_of_isDigit)
        rw [List.cons_append, scanFraction, taken, dropped, if_neg nonempty]
  · simp only [Option.some.injEq, Prod.mk.injEq] at h
    obtain ⟨rfl, rfl⟩ := h
    refine ⟨[], rfl, .nil, fun ys hy => ?_⟩
    cases ys with
    | nil => rfl
    | cons c ys =>
      have noPoint : c ≠ '.' := fun e => absurd (e ▸ hy c rfl) (by decide)
      simp [scanFraction, noPoint]

/-- The digits of an exponent are read up to what is no digit. -/
theorem scanExponentDigits_cut {negative : Bool} {cs rest : List Char} {e : Option Int}
    (h : scanExponentDigits negative cs = some (e, rest)) :
    ∃ w, cs = w ++ rest ∧ w ≠ [] ∧ (∀ c ∈ w, isDigit c = true) ∧
      ∀ ys, Avoids isDigit ys → scanExponentDigits negative (w ++ ys) = some (e, ys) := by
  unfold scanExponentDigits at h
  split at h
  · cases h
  · rename_i nonempty
    simp only [Option.some.injEq, Prod.mk.injEq] at h
    obtain ⟨rfl, rfl⟩ := h
    refine ⟨cs.takeWhile isDigit, List.takeWhile_append_dropWhile.symm, by simpa using nonempty,
      mem_takeWhile cs, fun ys hy => ?_⟩
    obtain ⟨taken, dropped⟩ := span_append (mem_takeWhile cs) hy
    rw [scanExponentDigits, taken, dropped, if_neg nonempty]

/-- An exponent is read the same whatever follows, unless that goes on with it or begins one. -/
theorem scanExponent_cut {cs rest : List Char} {e : Option Int}
    (h : scanExponent cs = some (e, rest)) :
    ∃ w, cs = w ++ rest ∧ Avoids extendsWhole w ∧
      ∀ ys, Avoids extendsExponent ys → scanExponent (w ++ ys) = some (e, ys) := by
  have noExponent (ys : List Char) (hy : Avoids extendsExponent ys) :
      scanExponent ys = some (none, ys) := by
    cases ys with
    | nil => rfl
    | cons c ys =>
      have noLetter : ¬(c = 'e' ∨ c = 'E') := by
        rintro (rfl | rfl)
        · exact absurd (hy 'e' rfl) (by decide)
        · exact absurd (hy 'E' rfl) (by decide)
      simp [scanExponent, noLetter]
  unfold scanExponent at h
  split at h
  · simp only [Option.some.injEq, Prod.mk.injEq] at h
    obtain ⟨rfl, rfl⟩ := h
    exact ⟨[], rfl, .nil, noExponent⟩
  · rename_i letter cs
    split at h
    · rename_i isLetter
      have apart (cs : List Char) : Avoids extendsWhole (letter :: cs) := by
        refine .cons ?_
        rcases isLetter with rfl | rfl <;> decide
      have digits {ys : List Char} (hy : Avoids extendsExponent ys) : Avoids isDigit ys :=
        hy.mono fun c hc => by simp [extendsExponent, hc]
      split at h
      · obtain ⟨w, rfl, _, _, same⟩ := scanExponentDigits_cut h
        refine ⟨letter :: '-' :: w, rfl, apart _, fun ys hy => ?_⟩
        rw [← same ys (digits hy)]
        simp [scanExponent, isLetter]
      · obtain ⟨w, rfl, _, _, same⟩ := scanExponentDigits_cut h
        refine ⟨letter :: '+' :: w, rfl, apart _, fun ys hy => ?_⟩
        rw [← same ys (digits hy)]
        simp [scanExponent, isLetter]
      · obtain ⟨w, rfl, nonempty, allDigits, same⟩ := scanExponentDigits_cut h
        refine ⟨letter :: w, rfl, apart _, fun ys hy => ?_⟩
        rw [← same ys (digits hy)]
        cases w with
        | nil => exact absurd rfl nonempty
        | cons d w =>
          -- a digit is no sign
          have digit := allDigits d List.mem_cons_self
          have noMinus : d ≠ '-' := fun e => absurd (e ▸ digit) (by decide)
          have noPlus : d ≠ '+' := fun e => absurd (e ▸ digit) (by decide)
          simp [scanExponent, isLetter, noMinus, noPlus]
    · simp only [Option.some.injEq, Prod.mk.injEq] at h
      obtain ⟨rfl, rfl⟩ := h
      exact ⟨[], rfl, .nil, noExponent⟩

/-- A number is read the same whatever follows, unless that goes on with a number. -/
theorem scanNumber_cut {negative : Bool} {first : Char} {cs rest : List Char} {t : Token}
    (h : scanNumber negative first cs = some (t, rest)) :
    ∃ w, cs = w ++ rest ∧ ∀ ys, Stops ys → scanNumber negative first (w ++ ys) = some (t, ys) := by
  unfold scanNumber at h
  split at h
  · cases h
  · rename_i leads
    simp only [Option.bind_eq_bind, Option.bind_eq_some_iff, Option.some.injEq, Prod.mk.injEq] at h
    obtain ⟨⟨fraction, afterFraction⟩, hf, ⟨e, afterExponent⟩, he, rfl, rfl⟩ := h
    obtain ⟨fractionPart, split, avoidsDigit, sameFraction⟩ := scanFraction_cut hf
    obtain ⟨exponentPart, rfl, avoidsWhole, sameExponent⟩ := scanExponent_cut he
    refine ⟨cs.takeWhile isDigit ++ (fractionPart ++ exponentPart), ?_, fun ys hy => ?_⟩
    · rw [List.append_assoc, List.append_assoc, ← split, List.takeWhile_append_dropWhile]
    · -- each part is followed by the next one or by what comes behind, and none of these goes on with it
      have behindFraction : Avoids extendsWhole (exponentPart ++ ys) :=
        avoidsWhole.append (hy.mono extendsNumber_of_extendsWhole)
      have behindWhole : Avoids isDigit (fractionPart ++ (exponentPart ++ ys)) :=
        avoidsDigit.append (behindFraction.mono extendsWhole_of_isDigit)
      obtain ⟨taken, dropped⟩ := span_append (mem_takeWhile cs) behindWhole
      rw [List.append_assoc, List.append_assoc, scanNumber, taken, dropped, if_neg leads,
        sameFraction _ behindFraction]
      show (scanExponent (exponentPart ++ ys)).bind _ = _
      rw [sameExponent _ (hy.mono extendsNumber_of_extendsExponent)]
      rfl

/-! ## Tokens -/

/-- Tells whether a token is one of the six signs. -/
def Token.isSign : Token → Bool
  | .openBrace | .closeBrace | .openBracket | .closeBracket | .comma | .colon => true
  | .scalar _ | .unreadable | .fault => false

/-- Tells whether a token is a scalar, which may be unreadable. -/
def Token.isScalar : Token → Bool
  | .scalar _ | .unreadable => true
  | _ => false

/-- A word is read the same whatever follows it. -/
theorem afterWord_cut {word cs rest : List Char} (h : afterWord word cs = some rest) :
    cs = word ++ rest ∧ ∀ ys, afterWord word (word ++ ys) = some ys := by
  fun_induction afterWord word cs with
  | case1 cs =>
    rw [← Option.some.inj h]
    exact ⟨rfl, fun ys => rfl⟩
  | case2 => cases h
  | case3 c word cs ih =>
    obtain ⟨rfl, same⟩ := ih h
    exact ⟨rfl, fun ys => by simp [afterWord, same]⟩
  | case4 => cases h

/-- The token of a number is a scalar, an unreadable one if the number is too large. -/
theorem isScalar_numberToken (negative : Bool) (whole fraction : List Char) (exponent : Option Int) :
    (numberToken negative whole fraction exponent).isScalar = true := by
  have float (d : Decimal.Scaled) : (floatToken d).isScalar = true := by
    unfold floatToken
    split <;> rfl
  unfold numberToken
  simp only
  split
  · split
    · split
      · rfl
      · exact float _
    · split
      · rfl
      · exact float _
  · exact float _

/-- The token of a string is a scalar, an unreadable one if a code unit is left over. -/
theorem isScalar_stringToken (parts : List StringPart) : (stringToken parts).isScalar = true := by
  unfold stringToken
  split <;> rfl

/-- What is read as a number is a scalar. -/
theorem isScalar_of_scanNumber {negative : Bool} {first : Char} {cs rest : List Char} {t : Token}
    (h : scanNumber negative first cs = some (t, rest)) : t.isScalar = true := by
  unfold scanNumber at h
  split at h
  · cases h
  · simp only [Option.bind_eq_bind, Option.bind_eq_some_iff, Option.some.injEq, Prod.mk.injEq] at h
    obtain ⟨_, _, ⟨e, _⟩, _, rfl, _⟩ := h
    exact isScalar_numberToken _ _ _ _

/-- The signs and their characters. -/
def signs : List (Char × Token) :=
  [('\x7b', .openBrace), ('\x7d', .closeBrace), ('[', .openBracket), (']', .closeBracket),
    (',', .comma), (':', .colon)]

/-- Digits are no blanks. -/
theorem isJsonBlank_of_isDigit {c : Char} (h : isDigit c = true) : isJsonBlank c = false := by
  have unlike {b : Char} (hb : isDigit b = false) : c ≠ b := fun e => by
    rw [e, hb] at h
    cases h
  simp [isJsonBlank, unlike (b := ' ') (by decide), unlike (b := '\t') (by decide),
    unlike (b := '\n') (by decide), unlike (b := '\r') (by decide)]

/-- A digit begins a number. -/
theorem scanToken_digit {c : Char} (h : isDigit c = true) (cs : List Char) :
    scanToken c cs = scanNumber false c cs := by
  unfold scanToken
  split
  case h_12 => rw [if_pos h]
  all_goals exact absurd h (by decide)

/-- A word that stands for a scalar is read the same whatever follows it. -/
theorem scanToken_word {c : Char} {word : List Char} {s : Scalar}
    (scans : ∀ cs, scanToken c cs = (afterWord word cs).map fun cs => (.scalar s, cs))
    (visible : isJsonBlank c = false) {cs rest : List Char} {t : Token}
    (h : scanToken c cs = some (t, rest)) :
    t.isScalar = true ∧ isJsonBlank c = false ∧
      ∃ w, cs = w ++ rest ∧ ∀ ys, Stops ys → scanToken c (w ++ ys) = some (t, ys) := by
  rw [scans] at h
  obtain ⟨_, found, same⟩ := Option.map_eq_some_iff.mp h
  obtain ⟨rfl, rfl⟩ := Prod.mk.inj same
  obtain ⟨split, again⟩ := afterWord_cut found
  refine ⟨rfl, visible, word, split, fun ys _ => ?_⟩
  rw [scans, again]
  rfl

/-- A token is a sign of one character, or a scalar that is read the same whatever follows, as long as
    that goes on with no number. -/
theorem scanToken_cases {c : Char} {cs rest : List Char} {t : Token}
    (h : scanToken c cs = some (t, rest)) :
    (c, t) ∈ signs ∧ rest = cs ∨
    t.isScalar = true ∧ isJsonBlank c = false ∧
      ∃ w, cs = w ++ rest ∧ ∀ ys, Stops ys → scanToken c (w ++ ys) = some (t, ys) := by
  have scanned := h
  unfold scanToken at h
  split at h
  -- the three words
  case h_7 => exact .inr (scanToken_word (fun _ => rfl) (by decide) scanned)
  case h_8 => exact .inr (scanToken_word (fun _ => rfl) (by decide) scanned)
  case h_9 => exact .inr (scanToken_word (fun _ => rfl) (by decide) scanned)
  -- a string
  case h_10 =>
    obtain ⟨⟨parts, _⟩, found, same⟩ := Option.map_eq_some_iff.mp h
    obtain ⟨rfl, rfl⟩ := Prod.mk.inj same
    obtain ⟨w, split, again⟩ := scanString_cut found
    refine .inr ⟨isScalar_stringToken parts, by decide, w, split, fun ys _ => ?_⟩
    show (scanString (w ++ ys)).map _ = _
    rw [again]
    rfl
  case h_11 =>
    split at h
    · rename_i d tail
      split at h
      · rename_i digit
        obtain ⟨w, rfl, again⟩ := scanNumber_cut h
        refine .inr ⟨isScalar_of_scanNumber h, by decide, d :: w, rfl, fun ys hy => ?_⟩
        show (if isDigit d then scanNumber true d (w ++ ys) else none) = _
        rw [if_pos digit, again ys hy]
      · cases h
    · cases h
  -- a number without a sign
  case h_12 =>
    split at h
    · rename_i digit
      obtain ⟨w, split, again⟩ := scanNumber_cut h
      refine .inr ⟨isScalar_of_scanNumber h, ?_, w, split, fun ys hy => ?_⟩
      · exact isJsonBlank_of_isDigit digit
      · rw [scanToken_digit digit, again ys hy]
    · cases h
  all_goals
    cases h
    exact .inl ⟨by decide, rfl⟩

theorem isSign_of_mem_signs {c : Char} {t : Token} (h : (c, t) ∈ signs) : t.isSign = true := by
  have all : signs.all (fun s => s.2.isSign) = true := by decide
  exact List.all_eq_true.mp all (c, t) h

/-- A sign is a token by itself. -/
theorem scanToken_sign {c : Char} {t : Token} (h : (c, t) ∈ signs) (cs : List Char) :
    isJsonBlank c = false ∧ extendsNumber c = false ∧ scanToken c cs = some (t, cs) := by
  simp only [signs, List.mem_cons, Prod.mk.injEq, List.not_mem_nil, or_false] at h
  rcases h with ⟨rfl, rfl⟩ | ⟨rfl, rfl⟩ | ⟨rfl, rfl⟩ | ⟨rfl, rfl⟩ | ⟨rfl, rfl⟩ | ⟨rfl, rfl⟩ <;>
    exact ⟨by decide, by decide, rfl⟩

/-! ## Spellings -/

/-- The texts that are read as one token and nothing else. -/
def Lexeme (t : Token) (w : List Char) : Prop :=
  ∃ c cs, w = c :: cs ∧ scanToken c cs = some (t, [])

/-- The texts that spell a row of tokens. -/
inductive Spaced : List Token → List Char → Prop where
  | nil : Spaced [] []
  | blank {c : Char} {ts : List Token} {cs : List Char} :
    isJsonBlank c = true → Spaced ts cs → Spaced ts (c :: cs)
  | token {t : Token} {w : List Char} {ts : List Token} {cs : List Char} :
    Lexeme t w → Spaced ts cs → Spaced (t :: ts) (w ++ cs)

/-- Of two neighbours one is a sign. -/
def Apart (t u : Token) : Prop := t.isSign = true ∨ u.isSign = true

/-- A blank ends a number. -/
theorem extendsNumber_of_isJsonBlank {c : Char} (h : isJsonBlank c = true) :
    extendsNumber c = false := by
  simp only [isJsonBlank, Bool.or_eq_true, beq_iff_eq] at h
  rcases h with ((rfl | rfl) | rfl) | rfl <;> decide

theorem not_isSign_of_isScalar {t : Token} (h : t.isScalar = true) : t.isSign = false := by
  cases t <;> first | rfl | cases h

/-- No lexeme is read as a fault: where the scanner fails it gives no token. -/
theorem Lexeme.ne_fault {t : Token} {w : List Char} (h : Lexeme t w) : t ≠ .fault := by
  obtain ⟨c, cs, rfl, scanned⟩ := h
  rintro rfl
  rcases scanToken_cases scanned with ⟨sign, _⟩ | ⟨scalar, _⟩
  · cases isSign_of_mem_signs sign
  · cases scalar

/-- There is no spelling of a fault. -/
theorem Spaced.sound {ts : List Token} {cs : List Char} (h : Spaced ts cs) : Token.fault ∉ ts := by
  induction h with
  | nil => exact List.not_mem_nil
  | blank _ _ ih => exact ih
  | token lexeme _ ih =>
    rw [List.mem_cons, not_or]
    exact ⟨lexeme.ne_fault.symm, ih⟩

/-- Before a sign no number goes on. -/
theorem stops_of_spaced {ts : List Token} {cs : List Char} (h : Spaced ts cs)
    (sign : ∀ t ∈ ts.head?, t.isSign = true) : Stops cs := by
  cases h with
  | nil => exact .nil
  | blank blank _ => exact .cons (extendsNumber_of_isJsonBlank blank)
  | token lexeme _ =>
    obtain ⟨c, cs, rfl, scanned⟩ := lexeme
    rcases scanToken_cases scanned with ⟨isSign, _⟩ | ⟨scalar, _⟩
    · exact .cons (scanToken_sign isSign []).2.1
    · have := sign _ rfl
      rw [not_isSign_of_isScalar scalar] at this
      cases this

/-- A token that is found in front is the first one of the text. -/
theorem tokens_of_scanned {c : Char} {cs rest : List Char} {t : Token}
    (visible : isJsonBlank c = false) (h : scanToken c cs = some (t, rest)) :
    tokens (c :: cs) = t :: tokens rest := by
  rw [tokens, if_neg (by rw [visible]; decide)]
  split
  · rename_i scanned
    rw [h] at scanned
    obtain ⟨rfl, rfl⟩ := Prod.mk.inj (Option.some.inj scanned)
    rfl
  · rename_i scanned
    rw [h] at scanned
    cases scanned

/-- The tokens of a spelling are those it spells. -/
theorem tokens_of_spaced {ts : List Token} {cs : List Char} (h : Spaced ts cs)
    (apart : ts.IsChain Apart) : tokens cs = ts := by
  induction h with
  | nil => rw [tokens]
  | blank blank _ ih => rw [tokens, if_pos blank, ih apart]
  | @token t w ts cs lexeme spaced ih =>
    obtain ⟨c, w, rfl, scanned⟩ := lexeme
    have rest : tokens cs = ts := ih apart.tail
    rcases scanToken_cases scanned with ⟨sign, rfl⟩ | ⟨scalar, visible, w', rfl, again⟩
    · obtain ⟨visible, _, scans⟩ := scanToken_sign sign cs
      rw [List.cons_append, List.nil_append, tokens_of_scanned visible scans, rest]
    · -- only a number could go on, and it would need a scalar behind it
      have stops : Stops cs := by
        refine stops_of_spaced spaced fun u hu => ?_
        -- a scalar's neighbour is a sign
        obtain ⟨us, rfl⟩ : ∃ us, ts = u :: us := by
          cases ts with
          | nil => cases hu
          | cons v us => exact ⟨us, by rw [Option.some.inj hu]⟩
        rcases (List.isChain_cons_cons.mp apart).1 with sign | sign
        · rw [not_isSign_of_isScalar scalar] at sign
          cases sign
        · exact sign
      rw [List.cons_append, List.append_nil, tokens_of_scanned visible (again cs stops), rest]

/-- A text that is read without a fault spells what is read. -/
theorem spaced_of_tokens (cs : List Char) (sound : Token.fault ∉ tokens cs) :
    Spaced (tokens cs) cs := by
  fun_induction tokens cs with
  | case1 => exact .nil
  | case2 c cs blank ih => exact .blank blank (ih sound)
  | case3 c cs visible t rest scanned ih =>
    have spaced : Spaced (tokens rest) rest := ih fun h => sound (List.mem_cons_of_mem _ h)
    rcases scanToken_cases scanned with ⟨sign, rfl⟩ | ⟨_, _, w, rfl, again⟩
    · exact .token ⟨c, [], rfl, (scanToken_sign sign []).2.2⟩ spaced
    · rw [← List.cons_append]
      exact .token ⟨c, w, rfl, by simpa using again [] .nil⟩ spaced
  | case4 c cs visible scanned => exact absurd List.mem_cons_self sound

end TraceQuery.Json
