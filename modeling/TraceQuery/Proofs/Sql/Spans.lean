/-
  Which placeholders a text refers to, said without the scan.

  The program finds the references of a text in two passes: a state machine blanks what is quoted, and
  what is left is cut up from the left.  Here both are replaced by a description of the text.

  1. **Spans** (`LiteralBody`, `Unspanned`): a text in which every span that is opened is also closed is
     a row of characters that are no quotes and of whole spans.  A literal takes along the character
     behind a backslash, an identifier knows no escape.  These are the texts after which the state
     machine stands outside quotes (`unspanned_iff`).
  2. **Occurrences** (`mem_pieces`): a well-formed placeholder is a piece of a text wherever it stands in
     it, since no other piece can reach over its opening brace.
  3. **Crux** (`mem_references`): a placeholder is found in the blanked text exactly where the text itself
     has it behind an unspanned front.  Inside quotes no brace is shown, and blanking makes none.

  Mathlib-free.
-/
import TraceQuery.Proofs.Sql.Renaming

namespace TraceQuery.Sql

/-! ## Spans -/

/-- What can stand between the quotes of a literal. -/
inductive LiteralBody : List Char → Prop
  /-- Nothing. -/
  | nil : LiteralBody []
  /-- A character that is neither a quote nor a backslash. -/
  | char {c : Char} {body : List Char} (hq : c ≠ singleQuote) (hb : c ≠ backslash)
      (rest : LiteralBody body) : LiteralBody (c :: body)
  /-- A backslash, with the character behind it. -/
  | escape (c : Char) {body : List Char} (rest : LiteralBody body) :
      LiteralBody (backslash :: c :: body)

/-- A text at whose end no span is open. -/
inductive Unspanned : List Char → Prop
  /-- Nothing. -/
  | nil : Unspanned []
  /-- A character that is no quote. -/
  | char {c : Char} {cs : List Char} (hq : c ≠ singleQuote) (hi : c ≠ backtick)
      (rest : Unspanned cs) : Unspanned (c :: cs)
  /-- A whole literal. -/
  | literal {body cs : List Char} (inside : LiteralBody body) (rest : Unspanned cs) :
      Unspanned (singleQuote :: (body ++ singleQuote :: cs))
  /-- A whole identifier. -/
  | identifier {body cs : List Char} (inside : backtick ∉ body) (rest : Unspanned cs) :
      Unspanned (backtick :: (body ++ backtick :: cs))

/-- After the body of a literal the scan is still in it. -/
theorem LiteralBody.after {body : List Char} (h : LiteralBody body) :
    Quoting.literal.after body = .literal := by
  induction h with
  | nil => rfl
  | char hq hb _ ih =>
    rw [Quoting.after_cons, show Quoting.literal.next _ = .literal by simp [Quoting.next, hq, hb], ih]
  | escape c _ ih =>
    rw [Quoting.after_cons, Quoting.after_cons]
    exact ih

/-- After a text without backticks the scan of an identifier is still in it. -/
theorem after_identifier {body : List Char} (h : backtick ∉ body) :
    Quoting.identifier.after body = .identifier := by
  induction body with
  | nil => rfl
  | cons c body ih =>
    rw [List.mem_cons, not_or] at h
    have stay : Quoting.identifier.next c = .identifier := by simp [Quoting.next, Ne.symm h.1]
    rw [Quoting.after_cons, stay, ih h.2]

/-- After a text that leaves no span open the scan is outside. -/
theorem Unspanned.after {cs : List Char} (h : Unspanned cs) :
    Quoting.outside.after cs = .outside := by
  induction h with
  | nil => rfl
  | char hq hi _ ih =>
    rw [Quoting.after_cons, show Quoting.outside.next _ = .outside by simp [Quoting.next, hq, hi], ih]
  | literal inside _ ih =>
    rw [Quoting.after_cons, Quoting.after_append]
    show ((Quoting.literal.after _).next singleQuote).after _ = _
    rw [inside.after]
    exact ih
  | identifier inside _ ih =>
    rw [Quoting.after_cons, Quoting.after_append]
    show ((Quoting.identifier.after _).next backtick).after _ = _
    rw [after_identifier inside]
    exact ih

/-- A text that closes the span in which it begins, and every other one. -/
def ClosesFrom : Quoting → List Char → Prop
  | .outside, cs => Unspanned cs
  | .literal, cs => ∃ body rest, LiteralBody body ∧ Unspanned rest ∧ cs = body ++ singleQuote :: rest
  | .escape, cs =>
    ∃ c body rest, LiteralBody body ∧ Unspanned rest ∧ cs = c :: (body ++ singleQuote :: rest)
  | .identifier, cs => ∃ body rest, backtick ∉ body ∧ Unspanned rest ∧ cs = body ++ backtick :: rest

/-- Where the scan ends outside quotes, all spans have been closed, the one it began in included. -/
theorem closesFrom_of_after {q : Quoting} {cs : List Char} (h : q.after cs = .outside) :
    ClosesFrom q cs := by
  induction cs generalizing q with
  | nil =>
    rw [Quoting.after_nil] at h
    rw [h]
    exact .nil
  | cons c cs ih =>
    have rest := ih h
    -- what is left to close after the first character
    cases q with
    | outside =>
      simp only [Quoting.next] at rest
      split at rest
      · rename_i hq
        obtain ⟨body, cs, inside, ends, rfl⟩ := rest
        rw [hq]
        exact .literal inside ends
      · rename_i hq
        split at rest
        · rename_i hi
          obtain ⟨body, cs, inside, ends, rfl⟩ := rest
          rw [hi]
          exact .identifier inside ends
        · rename_i hi
          exact .char hq hi rest
    | literal =>
      simp only [Quoting.next] at rest
      split at rest
      · rename_i hb
        obtain ⟨d, body, cs, inside, ends, rfl⟩ := rest
        rw [hb]
        exact ⟨backslash :: d :: body, cs, .escape d inside, ends, rfl⟩
      · rename_i hb
        split at rest
        · rename_i hq
          rw [hq]
          exact ⟨[], cs, .nil, rest, rfl⟩
        · rename_i hq
          obtain ⟨body, cs, inside, ends, rfl⟩ := rest
          exact ⟨c :: body, cs, .char hq hb inside, ends, rfl⟩
    | escape =>
      obtain ⟨body, cs, inside, ends, rfl⟩ : ClosesFrom .literal cs := rest
      exact ⟨c, body, cs, inside, ends, rfl⟩
    | identifier =>
      simp only [Quoting.next] at rest
      split at rest
      · rename_i hi
        rw [hi]
        exact ⟨[], cs, List.not_mem_nil, rest, rfl⟩
      · rename_i hi
        obtain ⟨body, cs, inside, ends, rfl⟩ := rest
        refine ⟨c :: body, cs, ?_, ends, rfl⟩
        rw [List.mem_cons, not_or]
        exact ⟨Ne.symm hi, inside⟩

/-- The scan stands outside quotes exactly after the texts that leave no span open. -/
theorem unspanned_iff {cs : List Char} : Unspanned cs ↔ Quoting.outside.after cs = .outside :=
  ⟨Unspanned.after, closesFrom_of_after⟩

/-! ## Occurrences -/

/-- A placeholder opens anew, so a text that begins with one closes none in front of it. -/
theorem Placeholder.closes_append (p : Placeholder) (cs : List Char) :
    closes (p.text.toList ++ cs) = false := by
  refine closes_of_starts ?_
  rw [Placeholder.toList_text]
  rfl

/-- The placeholders among the pieces of a text are those that stand anywhere in it. -/
theorem mem_pieces {p : Placeholder} {cs : List Char} :
    .placeholder p ∈ pieces cs ↔ p.WellFormed ∧ ∃ a b, cs = a ++ (p.text.toList ++ b) := by
  constructor
  · induction cs using pieces.induct with
    | case1 cs p' rest hit ih =>
      obtain ⟨hp, rfl⟩ := placeholderAt?_eq_some_iff.mp hit
      rw [pieces_placeholder hp, List.mem_cons]
      rintro (same | later)
      · cases same
        exact ⟨hp, [], rest, rfl⟩
      · obtain ⟨formed, a, b, rfl⟩ := ih later
        exact ⟨formed, p'.text.toList ++ a, b, (List.append_assoc _ _ _).symm⟩
    | case2 hit =>
      rw [pieces_nil]
      exact fun h => absurd h List.not_mem_nil
    | case3 c rest hit ih =>
      rw [pieces_other hit, List.mem_cons]
      rintro (same | later)
      · cases same
      · obtain ⟨formed, a, b, rfl⟩ := ih later
        exact ⟨formed, c :: a, b, rfl⟩
  · -- nothing that begins in front of the placeholder takes its brace away from it
    rintro ⟨formed, a, b, rfl⟩
    rw [pieces_append (p.closes_append b), pieces_placeholder formed]
    exact List.mem_append_right _ List.mem_cons_self

/-- The placeholders in a text are those among its pieces. -/
theorem mem_placeholdersIn {p : Placeholder} {s : String} :
    p ∈ placeholdersIn s ↔ .placeholder p ∈ pieces s.toList := by
  rw [placeholdersIn, List.mem_filterMap]
  constructor
  · rintro ⟨piece, hp, same⟩
    cases piece with
    | other c => cases same
    | placeholder p' => rwa [← Option.some.inj same]
  · intro hp
    exact ⟨_, hp, rfl⟩

/-! ## References -/

/-- A cut through a blanked text is one through the text. -/
theorem exists_append_of_blankChars {q : Quoting} {cs xs ys : List Char}
    (h : blankChars q cs = xs ++ ys) :
    ∃ as bs, cs = as ++ bs ∧ blankChars q as = xs ∧ blankChars (q.after as) bs = ys := by
  induction xs generalizing q cs with
  | nil => exact ⟨[], cs, rfl, rfl, h⟩
  | cons x xs ih =>
    cases cs with
    | nil => cases h
    | cons c cs =>
      rw [blankChars, List.cons_append, List.cons.injEq] at h
      obtain ⟨as, bs, rfl, front, behind⟩ := ih h.2
      refine ⟨c :: as, bs, rfl, ?_, behind⟩
      rw [blankChars, h.1, front]

/-- An opening brace is shown outside quotes only. -/
theorem outside_of_shown {q : Quoting} {cs rest : List Char}
    (h : blankChars q cs = openBrace :: rest) : q = .outside := by
  cases cs with
  | nil => cases h
  | cons c cs =>
    rw [blankChars, List.cons.injEq] at h
    by_cases hq : q = .outside
    · exact hq
    · exact absurd h.1 (shown_ne_openBrace hq c)

/-- A text refers to a placeholder that stands in it where no span is open. -/
theorem mem_references {p : Placeholder} {s : String} :
    p ∈ references s ↔
      p.WellFormed ∧ ∃ a b, s.toList = a ++ (p.text.toList ++ b) ∧ Unspanned a := by
  have piece : p ∈ references s ↔ .placeholder p ∈ pieces (blankChars .outside s.toList) := by
    rw [references, mem_placeholdersIn, blankQuoted, String.toList_ofList]
  rw [piece, mem_pieces]
  constructor
  · -- from what is shown back to the text: what is in front of the brace leaves the scan outside
    rintro ⟨formed, xs, ys, shows⟩
    obtain ⟨a, bs, split, _, behind⟩ := exists_append_of_blankChars shows
    obtain ⟨b, _, rfl, _⟩ := front_of_blankChars formed.blankless behind
    have outside : Quoting.outside.after a = .outside := by
      rw [Placeholder.toList_text p] at behind
      exact outside_of_shown behind
    exact ⟨formed, a, b, split, unspanned_iff.mpr outside⟩
  · -- from the text to what is shown: outside quotes a placeholder is shown as it is
    rintro ⟨formed, a, b, split, unspanned⟩
    obtain ⟨balanced, same⟩ := formed.shown
    refine ⟨formed, blankChars .outside a, blankChars .outside b, ?_⟩
    rw [split, blankChars_append, unspanned.after, blankChars_append, same,
      show Quoting.outside.after p.text.toList = .outside from balanced]

/-! ## The names of a text -/

/-- A text refers to a name exactly where it has a placeholder of that name behind a front that leaves
    no span open. -/
theorem mem_placeholderNames_iff_occurs (query name : String) :
    name ∈ placeholderNames query ↔ ∃ a type b : String,
      query = a ++ "\x7b" ++ name ++ ":" ++ type ++ "\x7d" ++ b ∧
      isName name.toList = true ∧ type ≠ "" ∧ (∀ c ∈ type.toList, isTypeChar c = true) ∧
      Unspanned a.toList := by
  have joined (a type b : String) : a ++ "\x7b" ++ name ++ ":" ++ type ++ "\x7d" ++ b
      = a ++ (Placeholder.text ⟨name, type⟩ ++ b) := by
    simp only [Placeholder.text, String.append_assoc]
  rw [mem_placeholderNames, List.mem_map]
  constructor
  · rintro ⟨⟨_, type⟩, hp, rfl⟩
    obtain ⟨formed, a, b, split, unspanned⟩ := mem_references.mp hp
    refine ⟨String.ofList a, type, String.ofList b, ?_, formed.name, formed.type_ne, formed.type, ?_⟩
    · rw [joined]
      apply String.toList_inj.mp
      rw [split, String.toList_append, String.toList_append, String.toList_ofList,
        String.toList_ofList]
    · rwa [String.toList_ofList]
  · rintro ⟨a, type, b, rfl, isname, nonempty, istype, unspanned⟩
    refine ⟨⟨name, type⟩, mem_references.mpr ⟨⟨isname, istype, nonempty⟩, ?_⟩, rfl⟩
    refine ⟨a.toList, b.toList, ?_, unspanned⟩
    rw [joined, String.toList_append, String.toList_append]

end TraceQuery.Sql
