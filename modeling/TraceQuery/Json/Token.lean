/-
  JSON text as a row of tokens.

  1. **Tokens** are the six signs and the scalars; blanks between tokens (space, tab, line feed,
     carriage return) vanish.  Where no token can be read there is a `fault`, and it is the last one.
  2. **Numbers** have no leading zeros, at least one digit on both sides of a point, and at least one
     digit in an exponent.  Without point and exponent they are integers if they fit 64 bits, except
     that `-0` is the double -0.0; all other numbers are doubles.
  3. **Decimals are read as the nearest double.**  `floatToken` rounds the exact decimal once, ties to
     the even significand.  A reader that is content with a fast path of machine arithmetic can be one
     unit off in the last place for some decimals of 16 and more digits, as 0.011998321406052725; this
     one is never off, so what is proved of decimals is about correct rounding.
  4. **Strings** hold no control characters.  Escapes are the short ones, a slash, and `\u` with four
     hexadecimal digits.
  5. **Unreadable** tokens are well formed but stand for nothing: a number too large for a double, or
     a string in which a `\u` escape is half of a pair.  They harm only where they are looked at.

  Every scanner gives back what it leaves of the text, and that is a suffix of what it was given
  (`scanToken_suffix`); this is why `tokens` ends.  For evaluation there is `tokensWithin`, by recursion
  on a bound, and the two agree (`tokens_eq_tokensWithin`).

  Mathlib-free.
-/
import TraceQuery.Decimal.Rounding
import TraceQuery.Json.Value

namespace TraceQuery.Json

open TraceQuery.Decimal (Scaled Double)
open TraceQuery.Text (isDigit digitsValue maxCount maxInteger)

/-- What a text of JSON is made of. -/
inductive Token where
  | openBrace
  | closeBrace
  | openBracket
  | closeBracket
  | comma
  | colon
  | scalar (s : Scalar)
  | unreadable
  | fault
deriving DecidableEq

/-! ## Strings -/

/-- A part of a string: a character, or the code unit of a `\u` escape. -/
inductive StringPart where
  | char (c : Char)
  | unit (n : Nat)
deriving DecidableEq, Repr

/-- Tells whether a code unit is the first half of a pair. -/
def isHighSurrogate (n : Nat) : Bool := 0xd800 ≤ n && n < 0xdc00

/-- Tells whether a code unit is the second half of a pair. -/
def isLowSurrogate (n : Nat) : Bool := 0xdc00 ≤ n && n < 0xe000

/-- The character of a pair of code units. -/
def pairedChar (high low : Nat) : Char :=
  Char.ofNat (0x10000 + (high - 0xd800) * 0x400 + (low - 0xdc00))

/-- The characters that the parts stand for; `none` if a code unit is half of a pair. -/
def joinParts : List StringPart → Option (List Char)
  | [] => some []
  | .char c :: rest => (joinParts rest).map (c :: ·)
  | .unit n :: rest =>
    -- a second half has its place right behind a first one, and nowhere else
    if isLowSurrogate n then none
    else if isHighSurrogate n then
      match rest with
      | .unit m :: rest =>
        if isLowSurrogate m then (joinParts rest).map (pairedChar n m :: ·) else none
      | _ => none
    else (joinParts rest).map (Char.ofNat n :: ·)

/-- The value of a hexadecimal digit, small or capital. -/
def hexValue? (c : Char) : Option Nat :=
  if isDigit c then some (c.toNat - '0'.toNat)
  else if 'a' ≤ c ∧ c ≤ 'f' then some (c.toNat - 'a'.toNat + 10)
  else if 'A' ≤ c ∧ c ≤ 'F' then some (c.toNat - 'A'.toNat + 10)
  else none

/-- The code unit of four hexadecimal digits. -/
def hexUnit? (a b c d : Char) : Option Nat := do
  let a ← hexValue? a
  let b ← hexValue? b
  let c ← hexValue? c
  let d ← hexValue? d
  some (((a * 16 + b) * 16 + c) * 16 + d)

/-- The character of a backslash and this letter. -/
def shortEscape? (letter : Char) : Option Char :=
  if letter = '/' then some '/'
  else (shortEscapes.find? fun e => e.1 == letter).map Prod.snd

/-- The parts of a string after its opening quote, and what follows its closing quote. -/
def scanString : List Char → Option (List StringPart × List Char)
  | [] => none
  | '\\' :: 'u' :: a :: b :: c :: d :: rest => do
    let n ← hexUnit? a b c d
    let (parts, rest) ← scanString rest
    some (.unit n :: parts, rest)
  | '\\' :: letter :: rest => do
    let c ← shortEscape? letter
    let (parts, rest) ← scanString rest
    some (.char c :: parts, rest)
  | c :: rest =>
    if c = '\x22' then some ([], rest)
    else if c = '\\' ∨ c.toNat < 0x20 then none
    else do
      let (parts, rest) ← scanString rest
      some (.char c :: parts, rest)

/-- The token of the parts of a string. -/
def stringToken (parts : List StringPart) : Token :=
  match joinParts parts with
  | some cs => .scalar (.string (String.ofList cs))
  | none => .unreadable

/-! ## Numbers -/

/-- The digits after a point, if there is a point. -/
def scanFraction : List Char → Option (List Char × List Char)
  | '.' :: cs =>
    if (cs.takeWhile isDigit).isEmpty then none
    else some (cs.takeWhile isDigit, cs.dropWhile isDigit)
  | cs => some ([], cs)

/-- The digits of an exponent after its letter and sign. -/
def scanExponentDigits (negative : Bool) (cs : List Char) : Option (Option Int × List Char) :=
  if (cs.takeWhile isDigit).isEmpty then none
  else
    let n := Int.ofNat (digitsValue 0 (cs.takeWhile isDigit))
    some (some (if negative then -n else n), cs.dropWhile isDigit)

/-- The exponent, if there is one. -/
def scanExponent : List Char → Option (Option Int × List Char)
  | [] => some (none, [])
  | c :: cs =>
    if c = 'e' ∨ c = 'E' then
      match cs with
      | '-' :: cs => scanExponentDigits true cs
      | '+' :: cs => scanExponentDigits false cs
      | cs => scanExponentDigits false cs
    else some (none, c :: cs)

/-- The scalar of the double that is nearest to a decimal; none if the decimal is too large for one. -/
def floatToken (d : Scaled) : Token :=
  match d.toDouble with
  | .finite x => .scalar (.number (.float x))
  | _ => .unreadable

/-- The token of a number given by its parts. -/
def numberToken (negative : Bool) (whole fraction : List Char) (exponent : Option Int) : Token :=
  let n := digitsValue 0 whole
  if fraction.isEmpty && exponent.isNone then
    if negative then
      if 0 < n ∧ n ≤ maxInteger + 1 then .scalar (.number (.integer (-Int.ofNat n)))
      else floatToken ⟨true, n, 0⟩
    else if n ≤ maxCount then .scalar (.number (.integer (Int.ofNat n)))
    else floatToken ⟨false, n, 0⟩
  else
    floatToken ⟨negative, digitsValue 0 (whole ++ fraction),
      exponent.getD 0 - Int.ofNat fraction.length⟩

/-- A number whose first digit is given, and what follows it. -/
def scanNumber (negative : Bool) (first : Char) (cs : List Char) : Option (Token × List Char) :=
  -- a zero in front is the whole number zero, and a digit may not follow it
  if first = '0' && !(cs.takeWhile isDigit).isEmpty then none
  else do
    let whole := first :: cs.takeWhile isDigit
    let (fraction, cs) ← scanFraction (cs.dropWhile isDigit)
    let (exponent, cs) ← scanExponent cs
    some (numberToken negative whole fraction exponent, cs)

/-! ## Tokens -/

/-- The four blanks that may stand between tokens, fewer than those that are trimmed. -/
def isJsonBlank (c : Char) : Bool := c == ' ' || c == '\t' || c == '\n' || c == '\r'

/-- The rest of a text that begins with a word. -/
def afterWord : List Char → List Char → Option (List Char)
  | [], cs => some cs
  | _, [] => none
  | w :: word, c :: cs => if w = c then afterWord word cs else none

/-- The token that begins with a character, and what follows it. -/
def scanToken (c : Char) (cs : List Char) : Option (Token × List Char) :=
  match c with
  | '\x7b' => some (.openBrace, cs)
  | '\x7d' => some (.closeBrace, cs)
  | '[' => some (.openBracket, cs)
  | ']' => some (.closeBracket, cs)
  | ',' => some (.comma, cs)
  | ':' => some (.colon, cs)
  | 'n' => (afterWord ['u', 'l', 'l'] cs).map fun cs => (.scalar .null, cs)
  | 't' => (afterWord ['r', 'u', 'e'] cs).map fun cs => (.scalar (.bool true), cs)
  | 'f' => (afterWord ['a', 'l', 's', 'e'] cs).map fun cs => (.scalar (.bool false), cs)
  | '\x22' => (scanString cs).map fun (parts, cs) => (stringToken parts, cs)
  | '-' =>
    match cs with
    -- a minus sign is a part of the number, so a digit must follow at once
    | d :: cs => if isDigit d then scanNumber true d cs else none
    | [] => none
  | d => if isDigit d then scanNumber false d cs else none

/-- A string leaves a suffix of the text. -/
theorem scanString_suffix {cs rest : List Char} {parts : List StringPart}
    (h : scanString cs = some (parts, rest)) : rest <:+ cs := by
  fun_induction scanString cs generalizing parts rest with
  | case1 => simp at h
  | case2 a b c d tail ih =>
    simp only [Option.bind_eq_bind, Option.bind_eq_some_iff, Option.some.injEq, Prod.mk.injEq] at h
    obtain ⟨n, _, ⟨parts', rest'⟩, hs, _, rfl⟩ := h
    -- six characters are passed: the backslash, the letter and four digits
    exact (ih hs).trans ((List.suffix_cons _ _).trans ((List.suffix_cons _ _).trans
      ((List.suffix_cons _ _).trans ((List.suffix_cons _ _).trans ((List.suffix_cons _ _).trans
        (List.suffix_cons _ _))))))
  | case3 letter tail _ ih =>
    simp only [Option.bind_eq_bind, Option.bind_eq_some_iff, Option.some.injEq, Prod.mk.injEq] at h
    obtain ⟨c, _, ⟨parts', rest'⟩, hs, _, rfl⟩ := h
    exact (ih hs).trans ((List.suffix_cons _ _).trans (List.suffix_cons _ _))
  | case4 tail =>
    simp only [Option.some.injEq, Prod.mk.injEq] at h
    exact h.2 ▸ List.suffix_cons _ _
  | case5 => simp at h
  | case6 c tail _ _ _ _ ih =>
    simp only [Option.bind_eq_bind, Option.bind_eq_some_iff, Option.some.injEq, Prod.mk.injEq] at h
    obtain ⟨⟨parts', rest'⟩, hs, _, rfl⟩ := h
    exact (ih hs).trans (List.suffix_cons _ _)

/-- A fraction leaves a suffix of the text, which is all of it where there is no point. -/
theorem scanFraction_suffix {cs fraction rest : List Char}
    (h : scanFraction cs = some (fraction, rest)) : rest <:+ cs := by
  unfold scanFraction at h
  split at h
  · rename_i tail
    split at h
    · simp at h
    · simp only [Option.some.injEq, Prod.mk.injEq] at h
      exact h.2 ▸ (List.dropWhile_suffix _).trans (List.suffix_cons _ _)
  · simp only [Option.some.injEq, Prod.mk.injEq] at h
    exact h.2 ▸ List.suffix_refl _

/-- The digits of an exponent leave a suffix of the text. -/
theorem scanExponentDigits_suffix {negative : Bool} {cs rest : List Char} {e : Option Int}
    (h : scanExponentDigits negative cs = some (e, rest)) : rest <:+ cs := by
  unfold scanExponentDigits at h
  split at h
  · simp at h
  · simp only [Option.some.injEq, Prod.mk.injEq] at h
    exact h.2 ▸ List.dropWhile_suffix _

/-- An exponent leaves a suffix of the text, which is all of it where there is no letter. -/
theorem scanExponent_suffix {cs rest : List Char} {e : Option Int}
    (h : scanExponent cs = some (e, rest)) : rest <:+ cs := by
  unfold scanExponent at h
  split at h
  · simp only [Option.some.injEq, Prod.mk.injEq] at h
    exact h.2 ▸ List.suffix_refl _
  · split at h
    · split at h
      · exact (scanExponentDigits_suffix h).trans
          ((List.suffix_cons _ _).trans (List.suffix_cons _ _))
      · exact (scanExponentDigits_suffix h).trans
          ((List.suffix_cons _ _).trans (List.suffix_cons _ _))
      · exact (scanExponentDigits_suffix h).trans (List.suffix_cons _ _)
    · simp only [Option.some.injEq, Prod.mk.injEq] at h
      exact h.2 ▸ List.suffix_refl _

/-- A number leaves a suffix of what follows its first digit. -/
theorem scanNumber_suffix {negative : Bool} {first : Char} {cs rest : List Char} {t : Token}
    (h : scanNumber negative first cs = some (t, rest)) : rest <:+ cs := by
  unfold scanNumber at h
  split at h
  · simp at h
  · simp only [Option.bind_eq_bind, Option.bind_eq_some_iff, Option.some.injEq, Prod.mk.injEq] at h
    obtain ⟨⟨fraction, afterFraction⟩, hf, ⟨e, afterExponent⟩, he, _, rfl⟩ := h
    exact (scanExponent_suffix he).trans ((scanFraction_suffix hf).trans (List.dropWhile_suffix _))

/-- A word leaves a suffix of the text. -/
theorem afterWord_suffix {word cs rest : List Char} (h : afterWord word cs = some rest) :
    rest <:+ cs := by
  fun_induction afterWord word cs with
  | case1 => simp at h; exact h ▸ List.suffix_refl _
  | case2 => simp at h
  | case3 _ _ _ ih => exact (ih h).trans (List.suffix_cons _ _)
  | case4 => simp at h

/-- A token leaves a suffix of what follows its first character, so every token shortens the text. -/
theorem scanToken_suffix {c : Char} {cs rest : List Char} {t : Token}
    (h : scanToken c cs = some (t, rest)) : rest <:+ cs := by
  unfold scanToken at h
  split at h <;>
    -- the six signs leave all of it; the three words, the string and the two kinds of number are left
    try (simp only [Option.some.injEq, Prod.mk.injEq] at h; exact h.2 ▸ List.suffix_refl _)
  · simp only [Option.map_eq_some_iff, Prod.mk.injEq] at h
    obtain ⟨_, hw, _, rfl⟩ := h
    exact afterWord_suffix hw
  · simp only [Option.map_eq_some_iff, Prod.mk.injEq] at h
    obtain ⟨_, hw, _, rfl⟩ := h
    exact afterWord_suffix hw
  · simp only [Option.map_eq_some_iff, Prod.mk.injEq] at h
    obtain ⟨_, hw, _, rfl⟩ := h
    exact afterWord_suffix hw
  · simp only [Option.map_eq_some_iff, Prod.mk.injEq] at h
    obtain ⟨⟨_, _⟩, hs, _, rfl⟩ := h
    exact scanString_suffix hs
  · split at h
    · split at h
      · exact (scanNumber_suffix h).trans (List.suffix_cons _ _)
      · simp at h
    · simp at h
  · split at h
    · exact scanNumber_suffix h
    · simp at h

/-- The tokens of a text; a fault ends them. -/
def tokens : List Char → List Token
  | [] => []
  | c :: cs =>
    if isJsonBlank c then tokens cs
    else
      match _h : scanToken c cs with
      | some (t, rest) => t :: tokens rest
      | none => [.fault]
termination_by cs => cs.length
decreasing_by
  · simp
  · have := (scanToken_suffix _h).length_le
    simp only [List.length_cons]
    omega

/-- The tokens of a text, by recursion on a bound of its length. -/
def tokensWithin : Nat → List Char → List Token
  | _, [] => []
  | 0, _ :: _ => [.fault]
  | n + 1, c :: cs =>
    if isJsonBlank c then tokensWithin n cs
    else
      match scanToken c cs with
      | some (t, rest) => t :: tokensWithin n rest
      | none => [.fault]

/-- Every bound of the length will do, so that tokens can be computed in proofs. -/
theorem tokens_eq_tokensWithin {n : Nat} {cs : List Char} (h : cs.length ≤ n) :
    tokens cs = tokensWithin n cs := by
  induction n generalizing cs with
  | zero =>
    rw [List.length_eq_zero_iff.mp (Nat.le_zero.mp h), tokens]
    rfl
  | succ n ih =>
    cases cs with
    | nil =>
      rw [tokens]
      rfl
    | cons c cs =>
      have fits : cs.length ≤ n := Nat.le_of_succ_le_succ h
      rw [tokens, tokensWithin]
      split
      · exact ih fits
      · split
        · rename_i scanned
          -- a token uses up at least its first character, so the bound still holds for the rest
          rw [ih (Nat.le_trans (scanToken_suffix scanned).length_le fits), scanned]
        · rename_i scanned
          rw [scanned]

end TraceQuery.Json
