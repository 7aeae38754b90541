/-
  Renaming the placeholders of a template.

  A renamed text is put together from pieces and cut up again when it is read, and there by another
  scanner, which sees quotes.  A renaming that makes names of names (`KeepsNames`) survives both.

  1. **Parts** (`renamedChars_placeholder`, `renamedChars_other`): a text is renamed piece by piece.
  2. **Crux** (`pieces_renamedChars`): cut up again, the renamed text has the renamed pieces.  Where no
     placeholder begins, none begins after renaming: what goes on with an opening brace holds no other
     one, so it is made of characters that have been left as they are (`front_of_renamedChars`).
  3. **Quotes** (`after_renamedChars`, `references_rename`): a placeholder neither opens nor closes a
     span, whatever its name, so the scan stands after a renamed text where it stands after the text,
     and the same placeholders are quoted.
  4. **Keys** (`keepsNames_boundName`): under a key that is a name every name is bound to a name.

  Mathlib-free.
-/
import TraceQuery.Proofs.Query.Binding
import TraceQuery.Proofs.Query.Key
import TraceQuery.Proofs.Sql.Spans

namespace TraceQuery.Sql

/-! ## Names -/

/-- A function from names to names. -/
def KeepsNames (f : String → String) : Prop :=
  ∀ name : String, isName name.toList = true → isName (f name).toList = true

/-- The placeholder under another name. -/
def Placeholder.renamed (f : String → String) (p : Placeholder) : Placeholder :=
  { p with name := f p.name }

theorem Placeholder.WellFormed.renamed {f : String → String} (hf : KeepsNames f) {p : Placeholder}
    (h : p.WellFormed) : (p.renamed f).WellFormed :=
  ⟨hf p.name h.name, h.type, h.type_ne⟩

/-- What a piece has besides a name: its character, or its type. -/
def Piece.unnamed : Piece → Piece
  | .other c => .other c
  | .placeholder p => .placeholder { p with name := "" }

/-! ## Parts -/

/-- The text with every name changed. -/
def renamedChars (f : String → String) (cs : List Char) : List Char :=
  ((pieces cs).map (Template.renamePiece f)).flatMap Piece.chars

section Parts

variable (f : String → String)

theorem renamedChars_nil : renamedChars f [] = [] := by
  rw [renamedChars, pieces_nil]
  rfl

/-- A placeholder in front gets its new name. -/
theorem renamedChars_placeholder {p : Placeholder} (h : p.WellFormed) (cs : List Char) :
    renamedChars f (p.text.toList ++ cs) = (p.renamed f).text.toList ++ renamedChars f cs := by
  rw [renamedChars, pieces_placeholder h]
  rfl

/-- Any other character in front stays. -/
theorem renamedChars_other {c : Char} {cs : List Char} (h : placeholderAt? (c :: cs) = none) :
    renamedChars f (c :: cs) = c :: renamedChars f cs := by
  rw [renamedChars, pieces_other h]
  rfl

namespace Template

theorem toList_rename (t : Template) : (t.rename f).toList = renamedChars f t.text.toList :=
  String.toList_ofList

theorem rename_empty : rename ⟨""⟩ f = "" := by
  apply String.toList_inj.mp
  rw [toList_rename]
  exact renamedChars_nil f

/-- A text in two parts is renamed part by part, if the second closes no placeholder of the first. -/
theorem rename_append {s t : String} (seam : closes t.toList = false) :
    rename ⟨s ++ t⟩ f = rename ⟨s⟩ f ++ rename ⟨t⟩ f := by
  apply String.toList_inj.mp
  rw [String.toList_append, toList_rename, toList_rename, toList_rename]
  show renamedChars f (s ++ t).toList = _
  rw [String.toList_append, renamedChars, pieces_append seam, List.map_append, List.flatMap_append]
  rfl

/-- A text without any placeholder, quoted ones included, stays as it is. -/
theorem rename_bare {s : String} (bare : placeholdersIn s = []) : rename ⟨s⟩ f = s := by
  have fixed : (pieces s.toList).map (renamePiece f) = pieces s.toList := by
    refine (List.map_congr_left (g := id) fun piece hp => ?_).trans (List.map_id _)
    cases piece with
    | other c => rfl
    | placeholder p =>
      have found : p ∈ placeholdersIn s := List.mem_filterMap.mpr ⟨_, hp, rfl⟩
      rw [bare] at found
      cases found
  apply String.toList_inj.mp
  rw [toList_rename, renamedChars, fixed, chars_pieces]

/-- A text without placeholders in front stays, if what is behind it closes none. -/
theorem rename_front {s t : String} (bare : placeholdersIn s = []) (seam : closes t.toList = false) :
    rename ⟨s ++ t⟩ f = s ++ rename ⟨t⟩ f := by
  rw [rename_append f seam, rename_bare f bare]

/-- Behind a text without opening braces every text is renamed by itself. -/
theorem rename_braceless {s : String} (h : openBrace ∉ s.toList) (t : String) :
    rename ⟨s ++ t⟩ f = s ++ rename ⟨t⟩ f := by
  have fixed : ((s.toList.map Piece.other).map (renamePiece f)).flatMap Piece.chars = s.toList := by
    rw [List.map_map, List.flatMap_map]
    exact List.flatMap_singleton' _
  apply String.toList_inj.mp
  rw [String.toList_append, toList_rename, toList_rename]
  show renamedChars f (s ++ t).toList = _
  rw [String.toList_append, renamedChars, pieces_front h, List.map_append, List.flatMap_append, fixed]
  rfl

/-- A placeholder in front is renamed apart from what is behind it. -/
theorem rename_placeholder {p : Placeholder} (h : p.WellFormed) (t : String) :
    rename ⟨p.text ++ t⟩ f = (p.renamed f).text ++ rename ⟨t⟩ f := by
  apply String.toList_inj.mp
  rw [String.toList_append, toList_rename, toList_rename]
  show renamedChars f (p.text ++ t).toList = _
  rw [String.toList_append, renamedChars_placeholder f h]

end Template

end Parts

/-! ## Cutting up again -/

section Pieces

variable {f : String → String}

/-- A front of the renamed text that holds no opening brace has been left as it is. -/
theorem front_of_renamedChars {cs front rest : List Char} (braceless : openBrace ∉ front)
    (h : renamedChars f cs = front ++ rest) : ∃ ds, cs = front ++ ds := by
  induction front generalizing cs with
  | nil => exact ⟨cs, rfl⟩
  | cons d front ih =>
    rw [List.mem_cons, not_or] at braceless
    cases cs with
    | nil =>
      rw [renamedChars_nil] at h
      cases h
    | cons c cs =>
      cases hit : placeholderAt? (c :: cs) with
      | some found =>
        obtain ⟨hp, same⟩ := placeholderAt?_eq_some_iff.mp hit
        rw [same, renamedChars_placeholder f hp, Placeholder.toList_text, List.cons_append] at h
        exact absurd (List.cons.inj h).1 braceless.1
      | none =>
        rw [renamedChars_other f hit] at h
        obtain ⟨rfl, later⟩ := List.cons.inj h
        obtain ⟨ds, rfl⟩ := ih braceless.2 later
        exact ⟨ds, rfl⟩

/-- Where no placeholder begins, none begins after renaming. -/
theorem placeholderAt?_renamedChars {c : Char} {cs : List Char} (h : placeholderAt? (c :: cs) = none) :
    placeholderAt? (c :: renamedChars f cs) = none := by
  cases hit : placeholderAt? (c :: renamedChars f cs) with
  | none => rfl
  | some found =>
    exfalso
    obtain ⟨p, rest⟩ := found
    obtain ⟨hp, same⟩ := placeholderAt?_eq_some_iff.mp hit
    rw [Placeholder.toList_text, List.cons_append] at same
    obtain ⟨rfl, later⟩ := List.cons.inj same
    have braceless : openBrace ∉ p.name.toList ++ ':' :: (p.type.toList ++ [closeBrace]) := by
      intro brace
      have goes := hp.continues_tail openBrace (by rw [Placeholder.toList_text]; exact brace)
      exact absurd goes (by decide)
    obtain ⟨ds, rfl⟩ := front_of_renamedChars braceless later
    have stands : placeholderAt? (p.text.toList ++ ds) = some (p, ds) :=
      placeholderAt?_eq_some_iff.mpr ⟨hp, rfl⟩
    rw [Placeholder.toList_text, List.cons_append, h] at stands
    cases stands

/-- Cut up again, the renamed text has the renamed pieces. -/
theorem pieces_renamedChars (hf : KeepsNames f) (cs : List Char) :
    pieces (renamedChars f cs) = (pieces cs).map (Template.renamePiece f) := by
  induction cs using pieces.induct with
  | case1 cs p rest hit ih =>
    obtain ⟨hp, rfl⟩ := placeholderAt?_eq_some_iff.mp hit
    rw [renamedChars_placeholder f hp, pieces_placeholder (hp.renamed hf), ih, pieces_placeholder hp]
    rfl
  | case2 hit =>
    rw [renamedChars_nil, pieces_nil]
    rfl
  | case3 c rest hit ih =>
    rw [renamedChars_other f hit, pieces_other (placeholderAt?_renamedChars hit), ih, pieces_other hit]
    rfl

end Pieces

/-! ## Quotes -/

section Quotes

variable {f : String → String} {p : Placeholder}

/-- What goes on with a placeholder neither opens nor closes a span. -/
theorem next_of_continues {c : Char} (goes : continues c = true) {q : Quoting} (hq : q ≠ .escape) :
    q.next c = q := by
  have noQuote : c ≠ singleQuote := fun e => absurd (e ▸ goes) (by decide)
  have noTick : c ≠ backtick := fun e => absurd (e ▸ goes) (by decide)
  have noEscape : c ≠ backslash := fun e => absurd (e ▸ goes) (by decide)
  cases q with
  | escape => exact absurd rfl hq
  | _ => simp [Quoting.next, noQuote, noTick, noEscape]

/-- Many such characters neither open nor close a span. -/
theorem after_of_continues {cs : List Char} (h : ∀ c ∈ cs, continues c = true) {q : Quoting}
    (hq : q ≠ .escape) : q.after cs = q := by
  induction cs with
  | nil => rfl
  | cons c cs ih =>
    rw [Quoting.after_cons, next_of_continues (h c List.mem_cons_self) hq,
      ih fun d hd => h d (List.mem_cons_of_mem c hd)]

/-- An opening brace leaves or opens no span; where it has been escaped, the escape has ended. -/
theorem next_openBrace (q : Quoting) :
    q.next openBrace ≠ .escape ∧ (q.next openBrace = .outside ↔ q = .outside) := by
  cases q <;> decide

/-- Where the scan stands behind a placeholder depends on where it stood in front of it alone. -/
theorem Placeholder.WellFormed.after (h : p.WellFormed) (q : Quoting) :
    q.after p.text.toList = q.next openBrace := by
  have tail := h.continues_tail
  rw [Placeholder.toList_text] at tail ⊢
  rw [Quoting.after_cons]
  exact after_of_continues tail (next_openBrace q).1

/-- Inside quotes a placeholder shows no brace. -/
theorem Placeholder.WellFormed.hidden (h : p.WellFormed) {q : Quoting} (hq : q ≠ .outside) :
    openBrace ∉ blankChars q p.text.toList := by
  have inside (cs : List Char) (hcs : ∀ c ∈ cs, continues c = true) {q : Quoting} (he : q ≠ .escape)
      (hq : q ≠ .outside) : openBrace ∉ blankChars q cs := by
    induction cs with
    | nil => exact List.not_mem_nil
    | cons c cs ih =>
      rw [blankChars, next_of_continues (hcs c List.mem_cons_self) he, List.mem_cons, not_or]
      exact ⟨(shown_ne_openBrace hq c).symm, ih fun d hd => hcs d (List.mem_cons_of_mem c hd)⟩
  have tail := h.continues_tail
  obtain ⟨noEscape, same⟩ := next_openBrace q
  rw [Placeholder.toList_text] at tail ⊢
  rw [blankChars, List.mem_cons, not_or]
  exact ⟨(shown_ne_openBrace hq openBrace).symm, inside _ tail noEscape fun e => hq (same.mp e)⟩

/-- The scan stands after a renamed text where it stands after the text. -/
theorem after_renamedChars (hf : KeepsNames f) (q : Quoting) (cs : List Char) :
    q.after (renamedChars f cs) = q.after cs := by
  induction cs using pieces.induct generalizing q with
  | case1 cs p rest hit ih =>
    obtain ⟨hp, rfl⟩ := placeholderAt?_eq_some_iff.mp hit
    rw [renamedChars_placeholder f hp, Quoting.after_append, Quoting.after_append, ih, hp.after,
      (hp.renamed hf).after]
  | case2 hit => rw [renamedChars_nil]
  | case3 c rest hit ih => rw [renamedChars_other f hit, Quoting.after_cons, Quoting.after_cons, ih]

/-- The placeholders outside quotes of a text that is read from inside or outside quotes. -/
def seen (q : Quoting) (cs : List Char) : List Placeholder :=
  (pieces (blankChars q cs)).filterMap Piece.placeholder?

theorem seen_nil (q : Quoting) : seen q [] = [] := by
  rw [seen, blankChars, pieces_nil]
  rfl

/-- Where no placeholder begins, none is seen to begin. -/
theorem seen_other {c : Char} {cs : List Char} (h : placeholderAt? (c :: cs) = none) (q : Quoting) :
    seen q (c :: cs) = seen (q.next c) cs := by
  have shown : placeholderAt? (q.shown c :: blankChars (q.next c) cs) = none := by
    cases hit : placeholderAt? (q.shown c :: blankChars (q.next c) cs) with
    | none => rfl
    | some found =>
      obtain ⟨hp, same⟩ := placeholderAt?_eq_some_iff.mp hit
      have same : blankChars q (c :: cs) = found.1.text.toList ++ found.2 := same
      obtain ⟨ds, _, split, _⟩ := front_of_blankChars hp.blankless same
      rw [placeholderAt?_eq_some_iff.mpr ⟨hp, split⟩] at h
      cases h
  rw [seen, blankChars, pieces_other shown]
  rfl

/-- Outside quotes a placeholder is seen, and inside it is not. -/
theorem seen_placeholder (h : p.WellFormed) (q : Quoting) (cs : List Char) :
    seen q (p.text.toList ++ cs)
      = (if q = .outside then [p] else []) ++ seen (q.next openBrace) cs := by
  rw [seen, blankChars_append, h.after]
  by_cases hq : q = .outside
  · rw [if_pos hq, hq, h.shown.2, pieces_placeholder h]
    rfl
  · rw [if_neg hq, pieces_front (h.hidden hq), List.filterMap_append, filterMap_others]
    rfl

/-- After renaming the same placeholders are seen, under their new names. -/
theorem seen_renamedChars (hf : KeepsNames f) (q : Quoting) (cs : List Char) :
    seen q (renamedChars f cs) = (seen q cs).map (Placeholder.renamed f) := by
  induction cs using pieces.induct generalizing q with
  | case1 cs p rest hit ih =>
    obtain ⟨hp, rfl⟩ := placeholderAt?_eq_some_iff.mp hit
    rw [renamedChars_placeholder f hp, seen_placeholder (hp.renamed hf), seen_placeholder hp, ih,
      List.map_append]
    by_cases hq : q = .outside
    · rw [if_pos hq, if_pos hq]
      rfl
    · rw [if_neg hq, if_neg hq]
      rfl
  | case2 hit =>
    rw [renamedChars_nil, seen_nil]
    rfl
  | case3 c rest hit ih =>
    rw [renamedChars_other f hit, seen_other (placeholderAt?_renamedChars hit), seen_other hit, ih]

end Quotes

/-! ## Keys -/

/-- The characters of names are ASCII, and in lower case they are those of names as well. -/
theorem isNameChar_toLower {c : Char} (h : isNameChar c = true) :
    c.toNat < 0x80 ∧ isNameChar c.toLower = true := by
  have small : c.toNat < 0x80 := by
    simp only [isNameChar, isAsciiLetter, isAsciiDigit, Bool.or_eq_true, Bool.and_eq_true,
      decide_eq_true_eq, beq_iff_eq, Char.le_def, UInt32.le_iff_toNat_le] at h
    show c.val.toNat < 0x80
    rcases h with ((⟨_, h⟩ | ⟨_, h⟩) | ⟨_, h⟩) | rfl
    · exact Nat.lt_of_le_of_lt h (by decide)
    · exact Nat.lt_of_le_of_lt h (by decide)
    · exact Nat.lt_of_le_of_lt h (by decide)
    · decide
  -- the small ones can be tried one by one
  have ascii : ∀ n < 0x80, isNameChar (Char.ofNat n) = true →
      isNameChar (Char.ofNat n).toLower = true := by
    decide
  have lower := ascii c.toNat small
  rw [Char.ofNat_toNat] at lower
  exact ⟨small, lower h⟩

/-- A name in lower case under a key that is a name. -/
theorem keepsNames_boundName {key : String} (hk : isName key.toList = true) :
    KeepsNames (boundName key) := by
  intro name hn
  have chars := isNameChar_of_isName hn
  have lower : (Text.lowercase name).toList.all isNameChar = true := by
    rw [Text.lowercase, String.toList_ofList,
      Text.lowerFrom_eq_map fun c hc => (isNameChar_toLower (chars c hc)).1, List.all_map,
      List.all_eq_true]
    exact fun c hc => (isNameChar_toLower (chars c hc)).2
  rw [boundName, String.toList_append, String.toList_append]
  exact isName_append (isName_append hk (by decide)) lower

/-! ## Templates -/

namespace Template

variable {f : String → String}

/-- A renamed template has the renamed pieces. -/
theorem pieces_rename (hf : KeepsNames f) (t : Template) :
    pieces (t.rename f).toList = (pieces t.text.toList).map (renamePiece f) := by
  rw [toList_rename, pieces_renamedChars hf]

theorem placeholdersIn_rename (hf : KeepsNames f) (t : Template) :
    placeholdersIn (t.rename f) = (placeholdersIn t.text).map (Placeholder.renamed f) := by
  have renamed : Piece.placeholder? ∘ renamePiece f
      = Option.map (Placeholder.renamed f) ∘ Piece.placeholder? := by
    funext piece
    cases piece <;> rfl
  rw [placeholdersIn, pieces_rename hf, List.filterMap_map, renamed]
  exact List.map_filterMap.symm

theorem names_rename (hf : KeepsNames f) (t : Template) : names ⟨t.rename f⟩ = t.names.map f := by
  show (placeholdersIn (t.rename f)).map Placeholder.name = _
  rw [placeholdersIn_rename hf, names, List.map_map, List.map_map]
  rfl

/-- To rename twice is to rename once. -/
theorem rename_rename (hf : KeepsNames f) (g : String → String) (t : Template) :
    rename ⟨t.rename f⟩ g = t.rename (g ∘ f) := by
  have twice : renamePiece g ∘ renamePiece f = renamePiece (g ∘ f) := by
    funext piece
    cases piece <;> rfl
  show String.ofList (((pieces (t.rename f).toList).map (renamePiece g)).flatMap Piece.chars) = _
  rw [pieces_rename hf, List.map_map, twice]
  rfl

/-- To keep all names is to keep the text. -/
theorem rename_id (t : Template) : t.rename id = t.text := by
  have same : renamePiece id = id := by
    funext piece
    cases piece <;> rfl
  rw [rename, same, List.map_id, chars_pieces, String.ofList_toList]

/-- A renamed template refers to the placeholders that the template refers to, under new names. -/
theorem references_rename (hf : KeepsNames f) (t : Template) :
    references (t.rename f) = (references t.text).map (Placeholder.renamed f) := by
  rw [references_eq, references_eq, toList_rename]
  exact seen_renamedChars hf .outside t.text.toList

/-- Renaming leaves a text as balanced as it was. -/
theorem balanced_rename (hf : KeepsNames f) (t : Template) :
    Balanced (t.rename f) ↔ Balanced t.text := by
  rw [Balanced, toList_rename, after_renamedChars hf, Balanced]

/-- The names outside quotes are the new ones of those before. -/
theorem placeholderNames_rename (hf : KeepsNames f) (t : Template) :
    placeholderNames (t.rename f) = nameSet ((placeholderNames t.text).map f) := by
  refine @eq_of_ascending _ id _ _ (pairwise_nameSet _) (pairwise_nameSet _) fun n => ?_
  have images : n ∈ (placeholderNames t.text).map f
      ↔ n ∈ ((references t.text).map Placeholder.name).map f := by
    simp only [List.mem_map, mem_placeholderNames]
  show n ∈ _ ↔ n ∈ _
  rw [mem_nameSet, mem_placeholderNames, references_rename hf, images, List.map_map, List.map_map]
  rfl

theorem reads_rename {t : Template} {refs : List Placeholder} (hf : KeepsNames f)
    (h : Reads t.text refs) : Reads (t.rename f) (refs.map (Placeholder.renamed f)) :=
  ⟨(balanced_rename hf t).mpr h.balanced, by rw [references_rename hf, h.references]⟩

/-- Renaming is a homomorphism: of names and of the functions on them, for the scanner that cuts up the
    text as it is as well as for the one that sees quotes. -/
theorem rename_homomorphism (t : Template) {f : String → String} (hf : KeepsNames f)
    (g : String → String) :
    names ⟨t.rename f⟩ = t.names.map f ∧
    rename ⟨t.rename f⟩ g = t.rename (g ∘ f) ∧
    t.rename id = t.text ∧
    (pieces (t.rename f).toList).map Piece.unnamed = (pieces t.text.toList).map Piece.unnamed ∧
    placeholderNames (t.rename f) = nameSet ((placeholderNames t.text).map f) ∧
    ∀ key : String, isName key.toList = true →
      placeholderNames (t.bindTo key) = nameSet ((placeholderNames t.text).map (boundName key)) := by
  have unnamed : Piece.unnamed ∘ renamePiece f = Piece.unnamed := by
    funext piece
    cases piece <;> rfl
  refine ⟨names_rename hf t, rename_rename hf g t, rename_id t, ?_, placeholderNames_rename hf t, ?_⟩
  · rw [pieces_rename hf, List.map_map, unnamed]
  · intro key hk
    exact placeholderNames_rename (keepsNames_boundName hk) t

/-- A placeholder behind a stray brace, and one behind a quote that is never closed. -/
def unclosed : Template := ⟨"\x7b\x7bA:T\x7d '\x7bB:U\x7d"⟩

/-- The stray brace stays, and the quoted placeholder is renamed without becoming a reference. -/
theorem rename_homomorphism_unclosed :
    KeepsNames (boundName "k") ∧
    unclosed.rename (boundName "k") = "\x7b\x7bk_a:T\x7d '\x7bk_b:U\x7d" ∧
    names ⟨unclosed.rename (boundName "k")⟩ = ["k_a", "k_b"] ∧
    placeholderNames (unclosed.rename (boundName "k")) = ["k_a"] := by
  have keeps : KeepsNames (boundName "k") := keepsNames_boundName (by decide)
  have before : unclosed.names = ["A", "B"] := by decide +kernel
  have seen : placeholderNames unclosed.text = ["A"] := by decide +kernel
  obtain ⟨renamed, _, _, _, references, _⟩ := rename_homomorphism unclosed keeps id
  rw [before] at renamed
  rw [seen] at references
  refine ⟨keeps, ?_, renamed.trans ?_, references.trans ?_⟩
  · decide +kernel
  · decide +kernel
  · decide +kernel

end Template

end TraceQuery.Sql
