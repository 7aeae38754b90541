/-
  How a server reads quotes.

  The scan of the program (`Quoting`) knows backslashes inside literals only.  A server has one rule
  for literals and for identifiers in backticks, and what it takes for SQL depends on that rule alone.

  1. **Rule** (`readQuoted`): inside quotes a backslash makes the character after it stand for itself,
     a doubled quote stands for one quote, and a quote on its own ends the span.
  2. **Lexemes** (`lexemes`): a text is cut up into spans and the characters outside of them.  A span
     that never ends is `broken`.  A text without one is read the same whatever follows it
     (`lexemes_append`), unless that goes on with a quote.
  3. **Literals** are written with escapes for both characters that mean something, and each is read
     back (`read_quoteLiteral`).
  4. **Identifiers** are written with doubling alone.  The crux is where a backslash of the text meets
     a backtick: of the two that a backtick is written as, the first is then escaped, and the second
     one ends the span or makes a pair with the next.  A text is `Sealed` when that never happens;
     this is exactly when its identifier ends where it was meant to (`readQuoted_identifier`,
     `sealed_of_readQuoted`), and without a backslash it is read back (`denoted_eq_iff`).

  Mathlib-free.
-/
import TraceQuery.Sql.Quoting

namespace TraceQuery.Sql

/-! ## The rule -/

/-- A character in front of the text of a span. -/
def push (c : Char) (span : Option (List Char × List Char)) : Option (List Char × List Char) :=
  span.map fun (text, rest) => (c :: text, rest)

/-- The text of a span and what follows it, from behind the opening quote. -/
def readQuoted (quote : Char) : List Char → Option (List Char × List Char)
  | [] => none
  | [c] => if c = quote then some ([], []) else none
  | c :: d :: rest =>
    if c = quote then
      if d = quote then push quote (readQuoted quote rest) else some ([], d :: rest)
    else if c = backslash then push d (readQuoted quote rest)
    else push c (readQuoted quote (d :: rest))

/-- The identifier at the front of a text and what follows it. -/
def readIdentifier : List Char → Option (List Char × List Char)
  | [] => none
  | c :: cs => if c = backtick then readQuoted backtick cs else none

/-- What a character has been put in front of was a span already. -/
theorem push_eq_some {c : Char} {span : Option (List Char × List Char)} {text rest : List Char} :
    push c span = some (text, rest) ↔ ∃ more, span = some (more, rest) ∧ text = c :: more := by
  cases span with
  | none => simp [push]
  | some hit =>
    obtain ⟨more, rest'⟩ := hit
    simp only [push, Option.map_some, Option.some.injEq, Prod.mk.injEq]
    constructor
    · rintro ⟨rfl, rfl⟩
      exact ⟨more, ⟨rfl, rfl⟩, rfl⟩
    · rintro ⟨_, ⟨rfl, rfl⟩, rfl⟩
      exact ⟨rfl, rfl⟩

section Steps

variable {quote c d : Char} {rest : List Char}

/-- A doubled quote stands for one. -/
theorem readQuoted_doubled (quote : Char) (rest : List Char) :
    readQuoted quote (quote :: quote :: rest) = push quote (readQuoted quote rest) := by
  simp [readQuoted]

/-- A quote on its own ends the span. -/
theorem readQuoted_end (h : rest.head? ≠ some quote) :
    readQuoted quote (quote :: rest) = some ([], rest) := by
  cases rest with
  | nil => simp [readQuoted]
  | cons d rest =>
    have hd : d ≠ quote := fun e => h (by rw [e]; rfl)
    simp [readQuoted, hd]

/-- A backslash takes the next character along. -/
theorem readQuoted_escape (h : quote ≠ backslash) (d : Char) (rest : List Char) :
    readQuoted quote (backslash :: d :: rest) = push d (readQuoted quote rest) := by
  simp [readQuoted, h.symm]

theorem readQuoted_other (hq : c ≠ quote) (hb : c ≠ backslash) (rest : List Char) :
    readQuoted quote (c :: rest) = push c (readQuoted quote rest) := by
  cases rest with
  | nil => simp [readQuoted, hq, push]
  | cons d rest => simp [readQuoted, hq, hb]

end Steps

/-- A span takes its closing quote with it. -/
theorem readQuoted_length {quote : Char} {cs text rest : List Char}
    (h : readQuoted quote cs = some (text, rest)) : rest.length < cs.length := by
  induction cs using readQuoted.induct quote generalizing text with
  | case1 => cases h
  | case2 =>
    simp only [readQuoted, if_true, Option.some.injEq, Prod.mk.injEq] at h
    rw [← h.2]
    exact Nat.zero_lt_one
  | case3 c hc => simp [readQuoted, hc] at h
  | case4 cs ih =>
    rw [readQuoted_doubled] at h
    obtain ⟨more, inner, _⟩ := push_eq_some.mp h
    have := ih inner
    simp only [List.length_cons]
    omega
  | case5 d cs hd =>
    simp only [readQuoted, if_true, hd, if_false, Option.some.injEq, Prod.mk.injEq] at h
    rw [← h.2]
    simp
  | case6 d cs hq ih =>
    rw [readQuoted_escape (fun e => hq e.symm)] at h
    obtain ⟨more, inner, _⟩ := push_eq_some.mp h
    have := ih inner
    simp only [List.length_cons]
    omega
  | case7 c d cs hq hb ih =>
    rw [readQuoted_other hq hb] at h
    obtain ⟨more, inner, _⟩ := push_eq_some.mp h
    have := ih inner
    simp only [List.length_cons] at this ⊢
    omega

/-- A span that ends is read the same whatever follows, unless it ends with the text and a quote
    follows. -/
theorem readQuoted_append {quote : Char} {xs text rest ys : List Char}
    (h : readQuoted quote xs = some (text, rest)) (seam : ys.head? ≠ some quote) :
    readQuoted quote (xs ++ ys) = some (text, rest ++ ys) := by
  induction xs using readQuoted.induct quote generalizing text with
  | case1 => cases h
  | case2 =>
    -- the closing quote is the last character, and only here does the seam count
    simp only [readQuoted, if_true, Option.some.injEq, Prod.mk.injEq] at h
    rw [← h.1, ← h.2]
    exact readQuoted_end seam
  | case3 c hc => simp [readQuoted, hc] at h
  | case4 cs ih =>
    rw [readQuoted_doubled] at h
    obtain ⟨more, inner, rfl⟩ := push_eq_some.mp h
    rw [List.cons_append, List.cons_append, readQuoted_doubled, ih inner]
    rfl
  | case5 d cs hd =>
    simp only [readQuoted, if_true, hd, if_false, Option.some.injEq, Prod.mk.injEq] at h
    rw [← h.1, ← h.2]
    exact readQuoted_end (by simpa using hd)
  | case6 d cs hq ih =>
    have hq : quote ≠ backslash := fun e => hq e.symm
    rw [readQuoted_escape hq] at h
    obtain ⟨more, inner, rfl⟩ := push_eq_some.mp h
    rw [List.cons_append, List.cons_append, readQuoted_escape hq, ih inner]
    rfl
  | case7 c d cs hq hb ih =>
    rw [readQuoted_other hq hb] at h
    obtain ⟨more, inner, rfl⟩ := push_eq_some.mp h
    rw [List.cons_append, readQuoted_other hq hb, ih inner]
    rfl

/-! ## Lexemes -/

/-- What a text is read as. -/
inductive Lexeme where
  /-- A character outside of quotes: SQL. -/
  | symbol (c : Char)
  /-- A literal or an identifier. -/
  | quoted (quote : Char) (text : List Char)
  /-- A span without an end. -/
  | broken
deriving DecidableEq, Repr

/-- Tells whether a character opens a span. -/
def isQuote (c : Char) : Bool := c == singleQuote || c == backtick

/-- A text as it is read from outside of quotes. -/
def lexemes : List Char → List Lexeme
  | [] => []
  | c :: cs =>
    if isQuote c then
      match _h : readQuoted c cs with
      | some (text, rest) => .quoted c text :: lexemes rest
      | none => [.broken]
    else .symbol c :: lexemes cs
termination_by cs => cs.length
decreasing_by
  · have := readQuoted_length _h
    simp only [List.length_cons]
    omega
  · simp

theorem lexemes_nil : lexemes [] = [] := by rw [lexemes]

/-- A character that is no quote is SQL. -/
theorem lexemes_symbol {c : Char} (h : isQuote c = false) (cs : List Char) :
    lexemes (c :: cs) = .symbol c :: lexemes cs := by
  rw [lexemes]
  simp [h]

/-- A quote opens a span, and the text goes on behind it. -/
theorem lexemes_quoted {c : Char} (h : isQuote c = true) {cs text rest : List Char}
    (span : readQuoted c cs = some (text, rest)) :
    lexemes (c :: cs) = .quoted c text :: lexemes rest := by
  rw [lexemes, if_pos h]
  split
  · rename_i hit
    rw [span] at hit
    simp only [Option.some.injEq, Prod.mk.injEq] at hit
    rw [hit.1, hit.2]
  · rename_i none
    rw [span] at none
    cases none

/-- If a span never ends nothing else is read. -/
theorem lexemes_broken {c : Char} (h : isQuote c = true) {cs : List Char}
    (span : readQuoted c cs = none) : lexemes (c :: cs) = [.broken] := by
  rw [lexemes, if_pos h]
  split
  · rename_i hit
    rw [span] at hit
    cases hit
  · rfl

/-- Tells whether a text begins with a quote. -/
def opens : List Char → Bool
  | [] => false
  | c :: _ => isQuote c

/-- A text whose spans end is read the same whatever follows, unless that begins with a quote. -/
theorem lexemes_append {xs ys : List Char} (h : .broken ∉ lexemes xs) (seam : opens ys = false) :
    lexemes (xs ++ ys) = lexemes xs ++ lexemes ys := by
  -- no quote behind the seam makes a pair with one that closes a span in front of it
  have apart {c : Char} (hc : isQuote c = true) : ys.head? ≠ some c := by
    intro e
    cases ys with
    | nil => cases e
    | cons y ys =>
      rw [Option.some.inj e] at seam
      exact absurd (hc.symm.trans seam) (by decide)
  induction xs using lexemes.induct with
  | case1 => rw [List.nil_append, lexemes_nil, List.nil_append]
  | case2 c cs hc text rest span ih =>
    rw [lexemes_quoted hc span, List.mem_cons, not_or] at h
    rw [List.cons_append, lexemes_quoted hc (readQuoted_append span (apart hc)),
      lexemes_quoted hc span, ih h.2, List.cons_append]
  | case3 c cs hc span =>
    rw [lexemes_broken hc span] at h
    exact absurd List.mem_cons_self h
  | case4 c cs hc ih =>
    have hc : isQuote c = false := by simpa using hc
    rw [lexemes_symbol hc, List.mem_cons, not_or] at h
    rw [List.cons_append, lexemes_symbol hc, lexemes_symbol hc, ih h.2, List.cons_append]

/-- A text without quotes in front of another one. -/
theorem lexemes_front {xs : List Char} (h : ∀ c ∈ xs, isQuote c = false) (ys : List Char) :
    lexemes (xs ++ ys) = xs.map .symbol ++ lexemes ys := by
  induction xs with
  | nil => rfl
  | cons c xs ih =>
    rw [List.cons_append, lexemes_symbol (h c List.mem_cons_self),
      ih fun d hd => h d (List.mem_cons_of_mem c hd)]
    rfl

/-! ## Literals -/

/-- A literal is read as the text that it was written for. -/
theorem readQuoted_literal (cs : List Char) {rest : List Char} (h : rest.head? ≠ some singleQuote) :
    readQuoted singleQuote (cs.flatMap literalChar ++ singleQuote :: rest) = some (cs, rest) := by
  induction cs with
  | nil => exact readQuoted_end h
  | cons c cs ih =>
    rw [List.flatMap_cons, List.append_assoc]
    by_cases special : c = backslash ∨ c = singleQuote
    · rw [literalChar, if_pos special]
      show readQuoted singleQuote (backslash :: c :: (cs.flatMap literalChar ++ _)) = _
      rw [readQuoted_escape (by decide), ih]
      rfl
    · rw [not_or] at special
      have plain : literalChar c = [c] := by simp [literalChar, special.1, special.2]
      rw [plain, List.singleton_append, readQuoted_other special.2 special.1, ih]
      rfl

/-! ## Identifiers -/

/-- Tells whether each backslash that is not escaped has a character other than a backtick to
    escape. -/
def isSealed : List Char → Bool
  | [] => true
  | [c] => c != backslash
  | c :: d :: cs => if c = backslash then d != backtick && isSealed cs else isSealed (d :: cs)

/-- What is left when each backslash that escapes a character is taken out. -/
def denoted : List Char → List Char
  | [] => []
  | [c] => [c]
  | c :: d :: cs => if c = backslash then d :: denoted cs else c :: denoted (d :: cs)

/-- One character of a text, with its backtick doubled, comes back as itself. -/
theorem readQuoted_identifierChar {c : Char} (h : c ≠ backslash) (rest : List Char) :
    readQuoted backtick (identifierChar c ++ rest) = push c (readQuoted backtick rest) := by
  rw [identifierChar]
  by_cases hc : c = backtick
  · rw [if_pos hc, hc]
    exact readQuoted_doubled backtick rest
  · rw [if_neg hc]
    exact readQuoted_other hc h rest

/-- The identifier of a sealed text ends where it was meant to. -/
theorem readQuoted_identifier {cs rest : List Char} (h : isSealed cs = true)
    (seam : rest.head? ≠ some backtick) :
    readQuoted backtick (cs.flatMap identifierChar ++ backtick :: rest) = some (denoted cs, rest) := by
  induction cs using isSealed.induct with
  | case1 => exact readQuoted_end seam
  | case2 c =>
    have hc : c ≠ backslash := by simpa [isSealed] using h
    rw [List.flatMap_singleton, readQuoted_identifierChar hc, readQuoted_end seam]
    rfl
  | case3 d cs ih =>
    simp only [isSealed, if_true, Bool.and_eq_true, bne_iff_ne] at h
    have plain : identifierChar d = [d] := by simp [identifierChar, h.1]
    rw [List.flatMap_cons, List.flatMap_cons, plain]
    show readQuoted backtick (backslash :: d :: (cs.flatMap identifierChar ++ backtick :: rest)) = _
    rw [readQuoted_escape (by decide), ih h.2, denoted, if_pos rfl]
    rfl
  | case4 c d cs hc ih =>
    rw [isSealed, if_neg hc] at h
    rw [List.flatMap_cons, List.append_assoc, readQuoted_identifierChar hc, ih h, denoted, if_neg hc]
    rfl

/-- From behind the first of the two backticks that a backtick is written as, nothing ends where it
    was meant to: the second one ends the span early, or pairs go on to the end and past it. -/
theorem readQuoted_shifted {cs rest text : List Char} :
    readQuoted backtick (backtick :: (cs.flatMap identifierChar ++ backtick :: rest))
      ≠ some (text, rest) := by
  induction cs generalizing text with
  | nil =>
    intro h
    rw [List.flatMap_nil, List.nil_append, readQuoted_doubled] at h
    obtain ⟨_, inner, _⟩ := push_eq_some.mp h
    exact Nat.lt_irrefl _ (readQuoted_length inner)
  | cons c cs ih =>
    intro h
    rw [List.flatMap_cons, List.append_assoc, identifierChar] at h
    by_cases hc : c = backtick
    · -- of three backticks two are a pair, and what follows is shifted again
      rw [if_pos hc] at h
      change readQuoted backtick (backtick :: backtick :: backtick :: _) = _ at h
      rw [readQuoted_doubled] at h
      obtain ⟨_, inner, _⟩ := push_eq_some.mp h
      exact ih inner
    · -- the span ends here, with more behind it than was meant
      rw [if_neg hc, List.singleton_append, readQuoted_end (by simpa using hc)] at h
      simp only [Option.some.injEq, Prod.mk.injEq] at h
      have := congrArg List.length h.2
      simp only [List.length_cons, List.length_append] at this
      omega

/-- Only the identifier of a sealed text ends where it was meant to. -/
theorem sealed_of_readQuoted {cs rest text : List Char}
    (h : readQuoted backtick (cs.flatMap identifierChar ++ backtick :: rest) = some (text, rest)) :
    isSealed cs = true := by
  induction cs using isSealed.induct generalizing text with
  | case1 => rfl
  | case2 c =>
    rw [isSealed, bne_iff_ne]
    rintro rfl
    -- the backslash escapes the closing backtick, and the span goes on past it
    change readQuoted backtick (backslash :: backtick :: rest) = _ at h
    rw [readQuoted_escape (by decide)] at h
    obtain ⟨_, inner, _⟩ := push_eq_some.mp h
    exact absurd (readQuoted_length inner) (Nat.lt_irrefl _)
  | case3 d cs ih =>
    rw [List.flatMap_cons, List.flatMap_cons, List.append_assoc, List.append_assoc] at h
    simp only [isSealed, if_true, Bool.and_eq_true, bne_iff_ne]
    by_cases hd : d = backtick
    · -- the backslash takes the first of the two backticks
      subst hd
      change readQuoted backtick (backslash :: backtick :: backtick :: _) = _ at h
      rw [readQuoted_escape (by decide)] at h
      obtain ⟨_, inner, _⟩ := push_eq_some.mp h
      exact absurd inner readQuoted_shifted
    · have plain : identifierChar d = [d] := by simp [identifierChar, hd]
      rw [plain] at h
      change readQuoted backtick (backslash :: d :: _) = _ at h
      rw [readQuoted_escape (by decide)] at h
      obtain ⟨_, inner, _⟩ := push_eq_some.mp h
      exact ⟨hd, ih inner⟩
  | case4 c d cs hc ih =>
    rw [List.flatMap_cons, List.append_assoc, readQuoted_identifierChar hc] at h
    obtain ⟨_, inner, _⟩ := push_eq_some.mp h
    rw [isSealed, if_neg hc]
    exact ih inner

/-- What is left without escapes is no longer. -/
theorem length_denoted (cs : List Char) : (denoted cs).length ≤ cs.length := by
  induction cs using denoted.induct with
  | case1 => exact Nat.le_refl 0
  | case2 c => exact Nat.le_refl 1
  | case3 d cs ih =>
    rw [denoted, if_pos rfl]
    simp only [List.length_cons]
    omega
  | case4 c d cs hc ih =>
    rw [denoted, if_neg hc]
    simp only [List.length_cons] at ih ⊢
    omega

/-- Without a backslash a text is sealed and denotes itself. -/
theorem sealed_of_not_mem {cs : List Char} (h : backslash ∉ cs) :
    isSealed cs = true ∧ denoted cs = cs := by
  induction cs using isSealed.induct with
  | case1 => exact ⟨rfl, rfl⟩
  | case2 c =>
    have hc : c ≠ backslash := fun e => h (by rw [e]; exact List.mem_cons_self)
    exact ⟨by simpa [isSealed] using hc, rfl⟩
  | case3 d cs => exact absurd List.mem_cons_self h
  | case4 c d cs hc ih =>
    have rest := ih fun hm => h (List.mem_cons_of_mem c hm)
    rw [isSealed, if_neg hc, denoted, if_neg hc]
    exact ⟨rest.1, congrArg (c :: ·) rest.2⟩

/-- A sealed text is denoted exactly if there is no backslash in it. -/
theorem denoted_eq_iff {cs : List Char} (h : isSealed cs = true) :
    denoted cs = cs ↔ backslash ∉ cs := by
  refine ⟨?_, fun none => (sealed_of_not_mem none).2⟩
  induction cs using isSealed.induct with
  | case1 => exact fun _ => List.not_mem_nil
  | case2 c =>
    intro _ hm
    rw [← List.mem_singleton.mp hm] at h
    exact absurd h (by decide)
  | case3 d cs ih =>
    intro same
    rw [denoted, if_pos rfl] at same
    -- an escape costs a character, and none is ever gained
    have := congrArg List.length same
    have := length_denoted cs
    simp only [List.length_cons] at *
    omega
  | case4 c d cs hc ih =>
    intro same hm
    rw [isSealed, if_neg hc] at h
    rw [denoted, if_neg hc] at same
    rcases List.mem_cons.mp hm with e | hm
    · exact hc e.symm
    · exact ih h (List.cons.inj same).2 hm

/-- A part without a backslash in front changes nothing. -/
theorem isSealed_append {xs ys : List Char} (h : backslash ∉ xs) :
    isSealed (xs ++ ys) = isSealed ys := by
  induction xs with
  | nil => rfl
  | cons c xs ih =>
    have hc : c ≠ backslash := fun e => h (by rw [e]; exact List.mem_cons_self)
    have rest := ih fun hm => h (List.mem_cons_of_mem c hm)
    rw [← rest, List.cons_append]
    cases xs ++ ys with
    | nil => simpa [isSealed] using hc
    | cons d ds => rw [isSealed, if_neg hc]

/-! ## Texts -/

/-- A text as it is read. -/
def read (s : String) : List Lexeme := lexemes s.toList

/-- A text that is all SQL. -/
def symbols (s : String) : List Lexeme := s.toList.map .symbol

/-- The character of a lexeme that is SQL. -/
def Lexeme.symbol? : Lexeme → Option Char
  | symbol c => some c
  | _ => none

/-- The characters that are read as SQL. -/
def outside (ls : List Lexeme) : List Char := ls.filterMap Lexeme.symbol?

/-- No quote stands in the text. -/
def Unquoted (s : String) : Prop := s.toList.any isQuote = false

instance : DecidablePred Unquoted := fun s =>
  inferInstanceAs (Decidable (s.toList.any isQuote = false))

/-- A text that is read the same wherever it stands outside of quotes: its spans end, and none is at
    its front, where it could go on with one before it. -/
structure Whole (s : String) : Prop where
  /-- Every span ends, -/
  ends : .broken ∉ read s
  /-- and no quote is in front. -/
  front : opens s.toList = false

instance : DecidablePred Whole := fun s =>
  decidable_of_iff (.broken ∉ read s ∧ opens s.toList = false)
    ⟨fun h => ⟨h.1, h.2⟩, fun h => ⟨h.1, h.2⟩⟩

/-- A text that can be written as an identifier. -/
def Sealed (s : String) : Prop := isSealed s.toList = true

instance : DecidablePred Sealed := fun s => inferInstanceAs (Decidable (isSealed s.toList = true))

section Texts

variable {s t : String}

@[simp] theorem outside_append (ls ms : List Lexeme) : outside (ls ++ ms) = outside ls ++ outside ms :=
  List.filterMap_append

@[simp] theorem outside_symbols (s : String) : outside (symbols s) = s.toList := by
  rw [outside, symbols, List.filterMap_map]
  exact List.filterMap_some

theorem broken_not_mem_symbols (s : String) : .broken ∉ symbols s := by
  intro h
  obtain ⟨c, _, same⟩ := List.mem_map.mp h
  cases same

theorem broken_not_mem_quoted (quote : Char) (text : List Char) :
    Lexeme.broken ∉ [Lexeme.quoted quote text] := by
  simp

/-- Two texts are read one by one, if the spans of the first end and the second begins with no quote. -/
theorem read_append (hs : .broken ∉ read s) (ht : opens t.toList = false) :
    read (s ++ t) = read s ++ read t := by
  rw [read, String.toList_append]
  exact lexemes_append hs ht

theorem Unquoted.isQuote_eq (hs : Unquoted s) {c : Char} (hc : c ∈ s.toList) : isQuote c = false := by
  have := List.any_eq_false.mp hs c hc
  simpa using this

theorem Unquoted.read_append (hs : Unquoted s) (t : String) : read (s ++ t) = symbols s ++ read t := by
  rw [read, String.toList_append]
  exact lexemes_front (fun c hc => hs.isQuote_eq hc) t.toList

theorem Unquoted.read_eq (hs : Unquoted s) : read s = symbols s := by
  have := hs.read_append ""
  rwa [String.append_empty, show read "" = [] from lexemes_nil, List.append_nil] at this

/-- Two texts without a quote in front have none in front together. -/
theorem opens_append (hs : opens s.toList = false) (ht : opens t.toList = false) :
    opens (s ++ t).toList = false := by
  rw [String.toList_append]
  cases h : s.toList with
  | nil => exact ht
  | cons c cs =>
    rw [h] at hs
    exact hs

theorem Unquoted.front (hs : Unquoted s) : opens s.toList = false := by
  cases h : s.toList with
  | nil => rfl
  | cons c cs => exact hs.isQuote_eq (by rw [h]; exact List.mem_cons_self)

theorem Unquoted.whole (hs : Unquoted s) : Whole s :=
  ⟨by rw [hs.read_eq]; exact broken_not_mem_symbols s, hs.front⟩

/-- Two whole texts are whole together. -/
theorem Whole.append (hs : Whole s) (ht : Whole t) : Whole (s ++ t) := by
  refine ⟨?_, opens_append hs.front ht.front⟩
  rw [read_append hs.ends ht.front, List.mem_append, not_or]
  exact ⟨hs.ends, ht.ends⟩

/-- Behind SQL a text may begin with a quote. -/
theorem Unquoted.whole_append (hs : Unquoted s) (ne : s ≠ "") (ht : .broken ∉ read t) :
    Whole (s ++ t) := by
  constructor
  · rw [hs.read_append, List.mem_append, not_or]
    exact ⟨broken_not_mem_symbols s, ht⟩
  · rw [String.toList_append]
    cases h : s.toList with
    | nil => exact absurd (String.toList_eq_nil_iff.mp h) ne
    | cons c cs => exact hs.isQuote_eq (by rw [h]; exact List.mem_cons_self)

theorem Whole.intercalate {g : String} (hg : Whole g) {parts : List String}
    (h : ∀ part ∈ parts, Whole part) : Whole (g.intercalate parts) :=
  intercalate_closed (Unquoted.whole (by decide)) Whole.append hg h

/-- The SQL of a list is that of its parts, with the separator's between them. -/
theorem outside_intercalate {g : String} (hg : Unquoted g) {parts : List String}
    (h : ∀ part ∈ parts, Whole part) :
    outside (read (g.intercalate parts))
      = g.toList.intercalate (parts.map fun part => outside (read part)) := by
  induction parts with
  | nil =>
    rw [String.intercalate_nil, show read "" = [] from lexemes_nil]
    rfl
  | cons a parts ih =>
    have ha := h a List.mem_cons_self
    cases parts with
    | nil => rw [String.intercalate_singleton, List.map_singleton, List.intercalate_singleton]
    | cons b parts =>
      have rest : ∀ part ∈ b :: parts, Whole part := fun part hp => h part (List.mem_cons_of_mem a hp)
      have behind : Whole (g.intercalate (b :: parts)) := hg.whole.intercalate rest
      rw [String.intercalate_cons_cons, String.append_assoc,
        read_append ha.ends (hg.whole.append behind).front, hg.read_append, outside_append,
        outside_append, outside_symbols, ih rest]
      simp only [List.map_cons, List.intercalate_cons_cons, List.append_assoc]

/-! ## Quoted texts -/

/-- A quoted literal is read as one literal with the text in it. -/
theorem read_quoteLiteral (s : String) : read (quoteLiteral s) = [.quoted singleQuote s.toList] := by
  rw [read, quoteLiteral, String.toList_ofList, List.cons_append,
    lexemes_quoted (by decide) (readQuoted_literal s.toList (by simp)), lexemes_nil]

/-- A quoted identifier is read as one, if the text is sealed; escapes are taken back. -/
theorem read_quoteIdentifier (h : Sealed s) :
    read (quoteIdentifier s) = [.quoted backtick (denoted s.toList)] := by
  rw [read, quoteIdentifier, String.toList_ofList, List.cons_append,
    lexemes_quoted (by decide) (readQuoted_identifier h (by simp)), lexemes_nil]

/-- Only a sealed text is read as one identifier. -/
theorem sealed_of_read {text : List Char} (h : read (quoteIdentifier s) = [.quoted backtick text]) :
    Sealed s := by
  rw [read, quoteIdentifier, String.toList_ofList, List.cons_append] at h
  cases span : readQuoted backtick (s.toList.flatMap identifierChar ++ [backtick]) with
  | none =>
    rw [lexemes_broken (by decide) span] at h
    cases h
  | some hit =>
    obtain ⟨text', rest⟩ := hit
    rw [lexemes_quoted (by decide) span] at h
    cases rest with
    | nil => exact sealed_of_readQuoted span
    | cons c cs =>
      -- whatever is left behind the span would be a lexeme of its own
      have none : lexemes (c :: cs) = [] := (List.cons.inj h).2
      rw [lexemes] at none
      split at none
      · split at none
        · cases none
        · cases none
      · cases none

/-- An identifier in front of a text that does not go on with it. -/
theorem readIdentifier_quoteIdentifier (s : String) (rest : List Char) :
    readIdentifier ((quoteIdentifier s).toList ++ rest)
      = readQuoted backtick (s.toList.flatMap identifierChar ++ backtick :: rest) := by
  rw [quoteIdentifier, String.toList_ofList]
  simp [readIdentifier]

end Texts

end TraceQuery.Sql
