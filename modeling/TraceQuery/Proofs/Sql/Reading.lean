/-
  What a text refers to, put together from what its parts refer to.

  A query is searched for placeholders in one go, after its quoted parts have been blanked.  This file
  makes the search compositional, so that a query can be read part by part.

  1. **Exactness** (`placeholderAt?_eq_some_iff`): a placeholder stands at the front of a text exactly
     when the text begins with the text of a well-formed placeholder.
  2. **Seams** (`pieces_append`): a text in two parts is cut up part by part, unless the second part
     goes on with a placeholder begun in the first one and closes it.
  3. **Reading** (`Reads s refs`): a scan of `s` that starts outside quotes ends there and meets the
     placeholders `refs`, in this order.  The builders of the program only put texts together in a few
     ways, and each way has one lemma: `Reads.front`, `Reads.back`, `Reads.glued`, `Reads.placeholder`,
     `Reads.intercalate`.
  4. **Texts without references** come in two strengths: `Plain` shows no brace at all outside its
     quotes and can stand in front of any text, `Silent` refers to nothing where it stands alone.

  Mathlib-free.
-/
import TraceQuery.Sql.Placeholder

namespace TraceQuery.Sql

/-! ## The form of a placeholder -/

/-- A placeholder whose name and type a reader accepts. -/
structure Placeholder.WellFormed (p : Placeholder) : Prop where
  /-- The name is one, -/
  name : isName p.name.toList = true
  /-- the type is made of the characters of types, -/
  type : ∀ c ∈ p.type.toList, isTypeChar c = true
  /-- and there is a type. -/
  type_ne : p.type ≠ ""

theorem Placeholder.toList_text (p : Placeholder) :
    p.text.toList = openBrace :: (p.name.toList ++ ':' :: (p.type.toList ++ [closeBrace])) := by
  simp [Placeholder.text, openBrace, closeBrace]

/-- A name is made of the characters of names. -/
theorem isNameChar_of_isName {cs : List Char} (h : isName cs = true) :
    ∀ c ∈ cs, isNameChar c = true := by
  cases cs with
  | nil => intro c hc; cases hc
  | cons d ds =>
    simp only [isName, Bool.and_eq_true, List.all_eq_true] at h
    intro c hc
    rcases List.mem_cons.mp hc with rfl | hc
    · rcases Bool.or_eq_true _ _ ▸ h.1 with hl | hu
      · simp [isNameChar, hl]
      · simp [isNameChar, hu]
    · exact h.2 c hc

theorem takeWhile_append_cons {p : Char → Bool} {xs ys : List Char} {c : Char}
    (hx : ∀ d ∈ xs, p d = true) (hc : p c = false) : (xs ++ c :: ys).takeWhile p = xs := by
  rw [List.takeWhile_append_of_pos hx]
  simp [hc]

theorem dropWhile_append_cons {p : Char → Bool} {xs ys : List Char} {c : Char}
    (hx : ∀ d ∈ xs, p d = true) (hc : p c = false) : (xs ++ c :: ys).dropWhile p = c :: ys := by
  rw [List.dropWhile_append_of_pos hx]
  simp [hc]

/-- The placeholder at the front of a text, in terms of the text alone. -/
theorem placeholderAt?_eq_some_iff {cs rest : List Char} {p : Placeholder} :
    placeholderAt? cs = some (p, rest) ↔ p.WellFormed ∧ cs = p.text.toList ++ rest := by
  constructor
  · intro h
    cases cs with
    | nil => simp [placeholderAt?] at h
    | cons b cs =>
      have names := List.takeWhile_append_dropWhile (p := isNameChar) (l := cs)
      simp only [placeholderAt?] at h
      split at h
      · rename_i hb
        split at h
        · rename_i colon afterName hName
          have types := List.takeWhile_append_dropWhile (p := isTypeChar) (l := afterName)
          split at h
          · rename_i close afterType hType
            split at h
            · rename_i good
              obtain ⟨rfl, rfl, isname, nonempty⟩ := good
              simp only [Option.some.injEq, Prod.mk.injEq] at h
              obtain ⟨rfl, rfl⟩ := h
              refine ⟨⟨by simpa using isname, ?_, by simpa using nonempty⟩, ?_⟩
              · intro c hc
                exact List.all_eq_true.mp List.all_takeWhile c (by simpa using hc)
              · rw [Placeholder.toList_text, hb]
                rw [hType] at types
                rw [hName, ← types] at names
                simp only [String.toList_ofList, List.cons_append, List.append_assoc,
                  List.nil_append]
                rw [names]
            · simp at h
          · simp at h
        · simp at h
      · simp at h
  · rintro ⟨⟨isname, istype, nonempty⟩, rfl⟩
    -- a name stops at the colon and a type at the brace, since neither can hold what ends it
    have allName := isNameChar_of_isName isname
    have colon : isNameChar ':' = false := by decide
    have close : isTypeChar closeBrace = false := by decide
    have shape : p.text.toList ++ rest
        = openBrace :: (p.name.toList ++ ':' :: (p.type.toList ++ closeBrace :: rest)) := by
      simp [Placeholder.toList_text]
    rw [shape]
    simp only [placeholderAt?, takeWhile_append_cons allName colon,
      dropWhile_append_cons allName colon, takeWhile_append_cons istype close,
      dropWhile_append_cons istype close, isname]
    simp [nonempty]

/-! ## Seams -/

/-- The characters that can go on with a placeholder that has begun. -/
def continues (c : Char) : Bool := isTypeChar c || c == ':' || c == closeBrace

theorem continues_of_isNameChar {c : Char} (h : isNameChar c = true) : continues c = true := by
  simp [continues, isTypeChar, h]

/-- Every character of a placeholder but the first goes on with it. -/
theorem Placeholder.WellFormed.continues_tail {p : Placeholder} (h : p.WellFormed) :
    ∀ c ∈ p.text.toList.tail, continues c = true := by
  rw [Placeholder.toList_text, List.tail_cons]
  intro c hc
  simp only [List.mem_append, List.mem_cons, List.not_mem_nil, or_false] at hc
  rcases hc with hc | rfl | hc | rfl
  · exact continues_of_isNameChar (isNameChar_of_isName h.name c hc)
  · decide
  · simp [continues, h.type c hc]
  · decide

/-- Where a text ends a placeholder may still be open; a text that follows may go on with it, or, as
    here, not. -/
def starts : List Char → Bool
  | [] => true
  | c :: _ => !continues c

/-- Tells whether a text goes on with a placeholder that may be open in front of it, to its end. -/
def closes (cs : List Char) : Bool := (cs.takeWhile continues).contains closeBrace

/-- What does not go on with a placeholder closes none. -/
theorem closes_of_starts {cs : List Char} (h : starts cs = true) : closes cs = false := by
  cases cs with
  | nil => rfl
  | cons c cs =>
    have stops : continues c = false := by simpa [starts] using h
    simp [closes, stops]

/-- The last character of a placeholder is its closing brace. -/
theorem Placeholder.closeBrace_mem_of_append {p : Placeholder} {xs zs : List Char} (hz : zs ≠ [])
    (h : p.text.toList = xs ++ zs) : closeBrace ∈ zs := by
  have shape : p.text.toList
      = (openBrace :: (p.name.toList ++ ':' :: p.type.toList)) ++ [closeBrace] := by
    simp [Placeholder.toList_text]
  have last := congrArg List.getLast? h
  rw [shape, List.getLast?_concat, List.getLast?_append, List.getLast?_eq_some_getLast hz] at last
  rw [Option.some.inj last]
  exact List.getLast_mem hz

/-- Whether a placeholder stands in front is seen in the first of two texts, if the second closes none. -/
theorem placeholderAt?_append {xs ys : List Char} (hx : xs ≠ []) (hy : closes ys = false) :
    placeholderAt? (xs ++ ys) = (placeholderAt? xs).map fun (p, rest) => (p, rest ++ ys) := by
  cases found : placeholderAt? xs with
  | some hit =>
    obtain ⟨p, rest⟩ := hit
    obtain ⟨hp, rfl⟩ := placeholderAt?_eq_some_iff.mp found
    exact placeholderAt?_eq_some_iff.mpr ⟨hp, by simp⟩
  | none =>
    cases hit : placeholderAt? (xs ++ ys) with
    | none => rfl
    | some hit' =>
      obtain ⟨p, rest⟩ := hit'
      obtain ⟨hp, split⟩ := placeholderAt?_eq_some_iff.mp hit
      rcases List.append_eq_append_iff.mp split with ⟨zs, hz, rfl⟩ | ⟨zs, rfl, hz⟩
      · -- the placeholder reaches over the seam: its rest begins `ys`, goes on with it and closes it
        exfalso
        by_cases empty : zs = []
        · rw [empty, List.append_nil] at hz
          have : placeholderAt? xs = some (p, []) :=
            placeholderAt?_eq_some_iff.mpr ⟨hp, by rw [hz, List.append_nil]⟩
          rw [found] at this
          cases this
        · have inside : ∀ z ∈ zs, continues z = true := by
            intro z mem
            refine hp.continues_tail z ?_
            rw [hz, List.tail_append_of_ne_nil hx]
            exact List.mem_append_right _ mem
          have closed := Placeholder.closeBrace_mem_of_append empty hz
          rw [closes, List.takeWhile_append_of_pos inside] at hy
          simp [closed] at hy
      · -- the placeholder ends before the seam, so it was there before
        exfalso
        have : placeholderAt? (p.text.toList ++ zs) = some (p, zs) :=
          placeholderAt?_eq_some_iff.mpr ⟨hp, rfl⟩
        rw [found] at this
        cases this

theorem pieces_nil : pieces [] = [] := by
  rw [pieces]
  rfl

/-- A placeholder in front is one piece. -/
theorem pieces_placeholder {p : Placeholder} (h : p.WellFormed) (rest : List Char) :
    pieces (p.text.toList ++ rest) = .placeholder p :: pieces rest := by
  have front := placeholderAt?_eq_some_iff.mpr ⟨h, (rfl : p.text.toList ++ rest = _)⟩
  rw [pieces]
  split
  · rename_i q after hit
    rw [front] at hit
    simp only [Option.some.injEq, Prod.mk.injEq] at hit
    rw [hit.1, hit.2]
  · rename_i none
    rw [front] at none
    cases none

/-- Where no placeholder is in front, the first character is a piece of its own. -/
theorem pieces_other {c : Char} {rest : List Char} (h : placeholderAt? (c :: rest) = none) :
    pieces (c :: rest) = .other c :: pieces rest := by
  rw [pieces]
  split
  · rename_i hit
    rw [h] at hit
    cases hit
  · rfl

/-- Cutting up a text in two parts, where the second part closes no placeholder of the first. -/
theorem pieces_append {xs ys : List Char} (hy : closes ys = false) :
    pieces (xs ++ ys) = pieces xs ++ pieces ys := by
  -- on the pieces of the first text, not on its characters: a placeholder is cut off as a whole
  induction xs using pieces.induct with
  | case1 xs p rest hit ih =>
    obtain ⟨hp, rfl⟩ := placeholderAt?_eq_some_iff.mp hit
    rw [List.append_assoc, pieces_placeholder hp, pieces_placeholder hp, ih, List.cons_append]
  | case2 hit => rw [List.nil_append, pieces_nil, List.nil_append]
  | case3 c rest hit ih =>
    have none : placeholderAt? (c :: (rest ++ ys)) = none := by
      have := placeholderAt?_append (List.cons_ne_nil c rest) hy
      rw [hit] at this
      exact this
    rw [List.cons_append, pieces_other none, pieces_other hit, ih, List.cons_append]

theorem placeholderAt?_of_ne {c : Char} (h : c ≠ openBrace) (rest : List Char) :
    placeholderAt? (c :: rest) = none := by
  simp [placeholderAt?, h]

/-- A text without opening braces holds no placeholder, and none begins in it. -/
theorem pieces_front {xs : List Char} (h : openBrace ∉ xs) (ys : List Char) :
    pieces (xs ++ ys) = xs.map .other ++ pieces ys := by
  induction xs with
  | nil => rfl
  | cons c xs ih =>
    have hc : c ≠ openBrace := fun e => h (e ▸ List.mem_cons_self)
    rw [List.cons_append, pieces_other (placeholderAt?_of_ne hc _),
      ih fun hx => h (List.mem_cons_of_mem c hx)]
    rfl

theorem filterMap_others (cs : List Char) :
    (cs.map Piece.other).filterMap Piece.placeholder? = [] := by
  rw [List.filterMap_map]
  exact List.filterMap_eq_nil_iff.mpr fun _ _ => rfl

/-- Nothing is lost by cutting up. -/
theorem chars_pieces (cs : List Char) : (pieces cs).flatMap Piece.chars = cs := by
  induction cs using pieces.induct with
  | case1 cs p rest hit ih =>
    obtain ⟨hp, rfl⟩ := placeholderAt?_eq_some_iff.mp hit
    rw [pieces_placeholder hp, List.flatMap_cons, ih]
    rfl
  | case2 hit =>
    rw [pieces_nil]
    rfl
  | case3 c rest hit ih =>
    rw [pieces_other hit, List.flatMap_cons, ih]
    rfl

/-! ## References -/

/-- The placeholders of a text outside its quotes, from the left. -/
def references (s : String) : List Placeholder := placeholdersIn (blankQuoted s)

theorem mem_placeholderNames {s : String} {n : String} :
    n ∈ placeholderNames s ↔ n ∈ (references s).map Placeholder.name := mem_nameSet

/-- The references of a text are cut out of it after its quotes have been blanked. -/
theorem references_eq (s : String) :
    references s = (pieces (blankChars .outside s.toList)).filterMap Piece.placeholder? := by
  simp [references, placeholdersIn, blankQuoted]

/-- A scan of `s` that starts outside quotes ends there and meets the placeholders `refs`. -/
structure Reads (s : String) (refs : List Placeholder) : Prop where
  /-- No span is left open, -/
  balanced : Balanced s
  /-- and these are the placeholders, in their order. -/
  references : references s = refs

theorem Balanced.reads {s : String} (h : Balanced s) : Reads s (references s) := ⟨h, rfl⟩

/-- A balanced text without a brace outside its quotes. -/
structure Plain (s : String) : Prop where
  /-- No span is left open, -/
  balanced : Balanced s
  /-- and no brace is seen. -/
  braceless : openBrace ∉ blankChars .outside s.toList

/-- Whether a text is plain can be computed. -/
instance (s : String) : Decidable (Plain s) :=
  decidable_of_iff (Balanced s ∧ openBrace ∉ blankChars .outside s.toList)
    ⟨fun h => ⟨h.1, h.2⟩, fun h => ⟨h.1, h.2⟩⟩

/-- A plain text that can stand between any two texts. -/
structure Glue (g : String) : Prop where
  /-- It refers to nothing. -/
  plain : Plain g
  /-- Its first character goes on with no placeholder, -/
  starts : starts g.toList = true
  /-- and there is one. -/
  ne : g ≠ ""

/-- Whether a text is glue can be computed. -/
instance (g : String) : Decidable (Glue g) :=
  decidable_of_iff (Plain g ∧ starts g.toList = true ∧ g ≠ "")
    ⟨fun h => ⟨h.1, h.2.1, h.2.2⟩, fun h => ⟨h.1, h.2, h.3⟩⟩

/-- Behind a balanced text the quotes of another are blanked as if it stood alone. -/
theorem Balanced.blank_append {s : String} (h : Balanced s) (t : String) :
    blankChars .outside (s ++ t).toList
      = blankChars .outside s.toList ++ blankChars .outside t.toList := by
  rw [String.toList_append, blankChars_append, show Quoting.outside.after s.toList = .outside from h]

/-- What goes on with a placeholder is no quote, so it is shown as it is. -/
theorem closes_blankChars (cs : List Char) : closes (blankChars .outside cs) = closes cs := by
  have same : (blankChars .outside cs).takeWhile continues = cs.takeWhile continues := by
    induction cs with
    | nil => rfl
    | cons c cs ih =>
      show (c :: blankChars (Quoting.outside.next c) cs).takeWhile continues = _
      by_cases goes : continues c = true
      · have stay : Quoting.outside.next c = .outside := by
          have literal : c ≠ singleQuote := fun e => absurd (e ▸ goes) (by decide)
          have identifier : c ≠ backtick := fun e => absurd (e ▸ goes) (by decide)
          simp [Quoting.next, literal, identifier]
        rw [stay, List.takeWhile_cons_of_pos goes, List.takeWhile_cons_of_pos goes, ih]
      · rw [List.takeWhile_cons_of_neg goes, List.takeWhile_cons_of_neg goes]
  rw [closes, closes, same]

/-- Two plain texts are plain together. -/
theorem Plain.append {s t : String} (hs : Plain s) (ht : Plain t) : Plain (s ++ t) := by
  refine ⟨hs.balanced.append ht.balanced, ?_⟩
  rw [hs.balanced.blank_append, List.mem_append]
  rintro (h | h)
  · exact hs.braceless h
  · exact ht.braceless h

/-- At the seam in front of glue only the glue is seen: it has a character of its own. -/
theorem Glue.starts_append {g : String} (hg : Glue g) (t : String) :
    Sql.starts (g ++ t).toList = true := by
  rw [String.toList_append]
  cases hc : g.toList with
  | nil => exact absurd (String.toList_eq_nil_iff.mp hc) hg.ne
  | cons c cs =>
    have := hg.starts
    rw [hc] at this
    exact this

namespace Reads

variable {s t g : String} {refs more : List Placeholder}

/-- Two texts side by side, where the second one closes no placeholder of the first. -/
theorem append (hs : Reads s refs) (ht : Reads t more) (seam : closes t.toList = false) :
    Reads (s ++ t) (refs ++ more) := by
  refine ⟨hs.balanced.append ht.balanced, ?_⟩
  rw [references_eq, hs.balanced.blank_append,
    pieces_append (by rw [closes_blankChars]; exact seam), List.filterMap_append, ← references_eq,
    ← references_eq, hs.references, ht.references]

/-- A plain text in front. -/
theorem front (hs : Plain s) (ht : Reads t refs) : Reads (s ++ t) refs := by
  refine ⟨hs.balanced.append ht.balanced, ?_⟩
  rw [references_eq, hs.balanced.blank_append, pieces_front hs.braceless, List.filterMap_append,
    filterMap_others, List.nil_append, ← references_eq, ht.references]

/-- An empty text refers to nothing. -/
theorem empty : Reads "" [] := by
  refine ⟨balanced_empty, ?_⟩
  rw [references_eq]
  show (pieces []).filterMap Piece.placeholder? = []
  rw [pieces_nil]
  rfl

theorem plain (hs : Plain s) : Reads s [] := by
  have := front hs empty
  rwa [String.append_empty] at this

/-- A plain text behind, which closes no placeholder. -/
theorem back (hs : Reads s refs) (ht : Plain t) (seam : closes t.toList = false) :
    Reads (s ++ t) refs := by
  have := hs.append (plain ht) seam
  rwa [List.append_nil] at this

/-- Two texts with glue between them. -/
theorem glued (hs : Reads s refs) (hg : Glue g) (ht : Reads t more) :
    Reads (s ++ g ++ t) (refs ++ more) := by
  rw [String.append_assoc]
  exact hs.append (front hg.plain ht) (closes_of_starts (hg.starts_append t))

/-- Many texts with glue between them. -/
theorem intercalate (hg : Glue g) {parts : List String} (h : ∀ part ∈ parts, Balanced part) :
    Reads (g.intercalate parts) (parts.flatMap Sql.references) := by
  induction parts with
  | nil => rw [String.intercalate_nil]; exact empty
  | cons a parts ih =>
    have ha := (h a List.mem_cons_self).reads
    cases parts with
    | nil =>
      rw [String.intercalate_singleton, List.flatMap_cons, List.flatMap_nil, List.append_nil]
      exact ha
    | cons b parts =>
      rw [String.intercalate_cons_cons, List.flatMap_cons]
      exact ha.glued hg (ih fun part hp => h part (List.mem_cons_of_mem a hp))

end Reads

/-- A balanced text that refers to nothing.  A brace that is never closed may stand in it. -/
def Silent (s : String) : Prop := Reads s []

theorem Silent.not_mem_placeholderNames {s : String} (h : Silent s) (n : String) :
    n ∉ placeholderNames s := by
  rw [mem_placeholderNames, h.references]
  exact List.not_mem_nil

theorem Plain.silent {s : String} (h : Plain s) : Silent s := Reads.plain h

/-! ## Quoted names and placeholders -/

/-- What stands inside quotes shows no brace. -/
theorem shown_ne_openBrace {q : Quoting} (hq : q ≠ .outside) (c : Char) : q.shown c ≠ openBrace := by
  cases q with
  | outside => exact absurd rfl hq
  | literal =>
    simp only [Quoting.shown]
    split
    · rename_i h
      rw [h]
      decide
    · decide
  | escape =>
    show ' ' ≠ openBrace
    decide
  | identifier =>
    simp only [Quoting.shown]
    split
    · rename_i h
      rw [h]
      decide
    · decide

section Quoted

variable {q : Quoting} {quote : Char} {write : Char → List Char}

/-- A way to write characters inside quotes: after each one the scan is back inside, and no brace has
    been shown. -/
def Inside (q : Quoting) (write : Char → List Char) : Prop :=
  ∀ c, q.after (write c) = q ∧ openBrace ∉ blankChars q (write c)

/-- After many characters, too, the scan is back inside, and no brace has been shown. -/
theorem Inside.flatMap (h : Inside q write) (cs : List Char) :
    q.after (cs.flatMap write) = q ∧ openBrace ∉ blankChars q (cs.flatMap write) := by
  induction cs with
  | nil => exact ⟨rfl, List.not_mem_nil⟩
  | cons c cs ih =>
    obtain ⟨back, silent⟩ := h c
    rw [List.flatMap_cons, Quoting.after_append, blankChars_append, back, List.mem_append, not_or]
    exact ⟨ih.1, silent, ih.2⟩

/-- A text that is written inside quotes is plain, whatever it is. -/
theorem Inside.plain (h : Inside q write) (opening : Quoting.outside.next quote = q)
    (closing : q.next quote = .outside) (bare : quote ≠ openBrace) (hq : q ≠ .outside) (s : String) :
    Plain (String.ofList (quote :: s.toList.flatMap write ++ [quote])) := by
  obtain ⟨inside, silent⟩ := h.flatMap s.toList
  constructor
  · show Quoting.outside.after _ = .outside
    rw [String.toList_ofList, List.cons_append, Quoting.after_cons, opening, Quoting.after_append,
      inside, Quoting.after_cons, closing, Quoting.after_nil]
  · rw [String.toList_ofList, List.cons_append, blankChars, opening, blankChars_append, inside]
    simp only [List.mem_cons, List.mem_append, not_or]
    refine ⟨bare.symm, silent, ?_⟩
    rw [blankChars, blankChars, List.mem_singleton]
    exact (shown_ne_openBrace hq quote).symm

end Quoted

/-- An escape is taken with the character it escapes, so no character leaves a literal. -/
theorem inside_literal : Inside .literal literalChar := by
  intro c
  by_cases special : c = backslash ∨ c = singleQuote
  · rw [literalChar, if_pos special]
    refine ⟨by simp [Quoting.next], ?_⟩
    show openBrace ∉ [Quoting.literal.shown backslash, Quoting.escape.shown c]
    simp only [List.mem_cons, List.not_mem_nil, or_false, not_or]
    exact ⟨(shown_ne_openBrace (by decide) backslash).symm, (shown_ne_openBrace (by decide) c).symm⟩
  · rw [literalChar, if_neg special]
    rw [not_or] at special
    refine ⟨by simp [Quoting.next, special.1, special.2], ?_⟩
    rw [blankChars, blankChars, List.mem_singleton]
    exact (shown_ne_openBrace (by decide) c).symm

/-- The second of two backticks opens what the first one has closed. -/
theorem inside_identifier : Inside .identifier identifierChar := by
  intro c
  by_cases special : c = backtick
  · rw [special]
    decide
  · rw [identifierChar, if_neg special]
    refine ⟨by simp [Quoting.next, special], ?_⟩
    rw [blankChars, blankChars, List.mem_singleton]
    exact (shown_ne_openBrace (by decide) c).symm

/-- A quoted literal is plain, whatever its text. -/
theorem plain_quoteLiteral (s : String) : Plain (quoteLiteral s) :=
  inside_literal.plain (by decide) (by decide) (by decide) (by decide) s

theorem plain_quoteIdentifier (s : String) : Plain (quoteIdentifier s) :=
  inside_identifier.plain (by decide) (by decide) (by decide) (by decide) s

theorem Plain.aliased {s : String} (h : Plain s) (name : String) : Plain (aliased s name) :=
  (h.append (by decide)).append (plain_quoteIdentifier name)

theorem Silent.aliased {s : String} (h : Silent s) (name : String) : Silent (aliased s name) :=
  Reads.glued h (show Glue " AS " by decide) (plain_quoteIdentifier name).silent

theorem Plain.intercalate {g : String} (hg : Plain g) {parts : List String}
    (h : ∀ t ∈ parts, Plain t) : Plain (g.intercalate parts) :=
  intercalate_closed (by decide) Plain.append hg h

/-- A text without quotes is shown as it is. -/
theorem blankChars_of_unquoted {cs : List Char} (h : ∀ c ∈ cs, c ≠ singleQuote ∧ c ≠ backtick) :
    Quoting.outside.after cs = .outside ∧ blankChars .outside cs = cs := by
  induction cs with
  | nil => exact ⟨rfl, rfl⟩
  | cons c cs ih =>
    have hc := h c List.mem_cons_self
    have stay : Quoting.outside.next c = .outside := by simp [Quoting.next, hc.1, hc.2]
    have rest := ih fun d hd => h d (List.mem_cons_of_mem c hd)
    constructor
    · rw [Quoting.after_cons, stay]
      exact rest.1
    · rw [blankChars, stay, rest.2]
      rfl

/-- A placeholder holds no quote. -/
theorem Placeholder.WellFormed.unquoted {p : Placeholder} (h : p.WellFormed) :
    ∀ c ∈ p.text.toList, c ≠ singleQuote ∧ c ≠ backtick := by
  intro c hc
  rw [Placeholder.toList_text] at hc
  rcases List.mem_cons.mp hc with rfl | hc
  · decide
  · have goes := h.continues_tail c (by rw [Placeholder.toList_text]; exact hc)
    constructor
    · rintro rfl
      exact absurd goes (by decide)
    · rintro rfl
      exact absurd goes (by decide)

theorem Placeholder.WellFormed.shown {p : Placeholder} (h : p.WellFormed) :
    Balanced p.text ∧ blankChars .outside p.text.toList = p.text.toList :=
  blankChars_of_unquoted h.unquoted

/-- The name of a type is made of the characters that a type may hold. -/
theorem ColumnType.text_ok (t : ColumnType) :
    t.text.toList.all isTypeChar = true ∧ t.text ≠ "" := by
  induction t with
  | array element ih =>
    constructor
    · have front : "Array(".toList.all isTypeChar = true := by decide
      have close : ")".toList.all isTypeChar = true := by decide
      rw [ColumnType.text, String.toList_append, String.toList_append, List.all_append,
        List.all_append, front, close, ih.1]
      rfl
    · simp [ColumnType.text]
  | _ => decide

/-- The placeholders of the program are well-formed, if their names are names. -/
theorem wellFormed_placeholder {name : String} (h : isName name.toList = true) (type : ColumnType) :
    Placeholder.WellFormed ⟨name, type.text⟩ :=
  ⟨h, List.all_eq_true.mp type.text_ok.1, type.text_ok.2⟩

/-- A placeholder of the program in front of a text, which may be any: a placeholder that has ended
    is not gone on with. -/
theorem Reads.placeholder {name t : String} {refs : List Placeholder}
    (h : isName name.toList = true) (type : ColumnType) (ht : Reads t refs) :
    Reads (placeholder name type ++ t) (⟨name, type.text⟩ :: refs) := by
  have formed := wellFormed_placeholder h type
  obtain ⟨balanced, same⟩ := formed.shown
  refine ⟨balanced.append ht.balanced, ?_⟩
  rw [references_eq, Sql.placeholder, balanced.blank_append, same, pieces_placeholder formed]
  show _ :: List.filterMap _ _ = _
  rw [← references_eq, ht.references]

/-- A placeholder of the program refers to its name, with its type. -/
theorem reads_placeholder {name : String} (h : isName name.toList = true) (type : ColumnType) :
    Reads (placeholder name type) [⟨name, type.text⟩] := by
  have := Reads.placeholder h type Reads.empty
  rwa [String.append_empty] at this

end TraceQuery.Sql
