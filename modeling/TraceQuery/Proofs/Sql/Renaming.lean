/-
  Renaming the placeholders of a text.

  A query refers to the placeholders outside its quotes only, so a renaming has to leave what is quoted as
  it stands.  `renamed` cuts up the blanked text and puts back what has been blanked (`visible`).

  1. **Restoring** (`visible_append`, `visible_front`, `visible_placeholder`): the pieces of a text that is
     put together from balanced parts are those of its parts, as for `Reads`.
  2. **Renaming** (`renamed_append`, `renamed_front`, `renamed_placeholder`, `renamed_glued`,
     `renamed_intercalate`): so a text is renamed part by part.
  3. **Untouched texts** (`renamed_eq_self`): a renaming that leaves the names a text refers to leaves the
     text, since blanking never makes a placeholder: it shows blanks, and a placeholder holds none
     (`eq_of_shown`).  For the same reason a balanced text without placeholders, quoted ones included,
     refers to nothing (`Silent.of_bare`).

  Mathlib-free.
-/
import TraceQuery.Sql.Template
import TraceQuery.Proofs.Sql.Reading

namespace TraceQuery.Sql

/-! ## Pieces -/

/-- The pieces with other characters in the places of their own. -/
def restore : List Piece → List Char → List Piece
  | [], _ => []
  | .placeholder p :: ps, cs => .placeholder p :: restore ps (cs.drop p.text.toList.length)
  | .other _ :: ps, c :: cs => .other c :: restore ps cs
  | .other _ :: _, [] => []

/-- The pieces of two texts are restored one by one. -/
theorem restore_append {ps : List Piece} {cs : List Char}
    (h : (ps.flatMap Piece.chars).length = cs.length) (qs : List Piece) (ds : List Char) :
    restore (ps ++ qs) (cs ++ ds) = restore ps cs ++ restore qs ds := by
  induction ps generalizing cs with
  | nil =>
    rw [List.length_eq_zero_iff.mp h.symm]
    rfl
  | cons p ps ih =>
    rw [List.flatMap_cons, List.length_append] at h
    cases p with
    | placeholder p =>
      have fits : p.text.toList.length ≤ cs.length := by
        have : (Piece.placeholder p).chars.length = p.text.toList.length := rfl
        omega
      show Piece.placeholder p :: restore (ps ++ qs) ((cs ++ ds).drop _) = _
      rw [List.drop_append_of_le_length fits, ih]
      · rfl
      · rw [List.length_drop]
        have : (Piece.placeholder p).chars.length = p.text.toList.length := rfl
        omega
    | other c =>
      cases cs with
      | nil =>
        have : (Piece.other c).chars.length = 1 := rfl
        simp only [List.length_nil] at h
        omega
      | cons d cs =>
        show Piece.other d :: restore (ps ++ qs) (cs ++ ds) = _
        rw [ih]
        · rfl
        · have : (Piece.other c).chars.length = 1 := rfl
          rw [List.length_cons] at h
          omega

/-- Characters are replaced by those in their places. -/
theorem restore_other {shown cs : List Char} (h : shown.length = cs.length) :
    restore (shown.map .other) cs = cs.map .other := by
  induction shown generalizing cs with
  | nil =>
    rw [List.length_eq_zero_iff.mp h.symm]
    rfl
  | cons d shown ih =>
    cases cs with
    | nil => cases h
    | cons c cs => exact congrArg _ (ih (Nat.succ.inj h))

/-- The pieces of a text whose placeholders are those outside its quotes. -/
def visible (cs : List Char) : List Piece := restore (pieces (blankChars .outside cs)) cs

theorem visible_nil : visible [] = [] := by
  show restore (pieces []) [] = []
  rw [pieces_nil]
  rfl

/-- Two texts have the pieces of each, if the first is balanced and the second closes no placeholder. -/
theorem visible_append {xs ys : List Char} (hx : Quoting.outside.after xs = .outside)
    (seam : closes ys = false) : visible (xs ++ ys) = visible xs ++ visible ys := by
  rw [visible, blankChars_append, hx, pieces_append (by rw [closes_blankChars]; exact seam),
    restore_append (by rw [chars_pieces, length_blankChars])]
  rfl

/-- A text in front that shows no opening brace. -/
theorem visible_front {xs : List Char} (hx : Quoting.outside.after xs = .outside)
    (bare : openBrace ∉ blankChars .outside xs) (ys : List Char) :
    visible (xs ++ ys) = xs.map .other ++ visible ys := by
  have chars (cs : List Char) : (cs.map Piece.other).flatMap Piece.chars = cs := by
    rw [List.flatMap_map]
    exact List.flatMap_singleton' cs
  rw [visible, blankChars_append, hx, pieces_front bare,
    restore_append (by rw [chars, length_blankChars]), restore_other (length_blankChars _ _)]
  rfl

theorem visible_placeholder {p : Placeholder} (h : p.WellFormed) (ys : List Char) :
    visible (p.text.toList ++ ys) = .placeholder p :: visible ys := by
  obtain ⟨balanced, same⟩ := h.shown
  rw [visible, blankChars_append, show Quoting.outside.after p.text.toList = .outside from balanced,
    same, pieces_placeholder h]
  show _ :: restore _ ((p.text.toList ++ ys).drop _) = _
  rw [List.drop_left]
  rfl

/-! ## Renaming -/

/-- The text with the names of its placeholders changed, but for those inside quotes. -/
def renamed (f : String → String) (s : String) : String :=
  String.ofList (((visible s.toList).map (Template.renamePiece f)).flatMap Piece.chars)

section

variable (f : String → String) {s t g : String}

/-- The characters of a renamed text are those of its renamed pieces. -/
theorem toList_renamed (s : String) : (renamed f s).toList
    = ((visible s.toList).map (Template.renamePiece f)).flatMap Piece.chars := String.toList_ofList

/-- An empty text stays. -/
theorem renamed_empty : renamed f "" = "" := by
  apply String.toList_inj.mp
  rw [toList_renamed]
  show ((visible []).map _).flatMap _ = []
  rw [visible_nil]
  rfl

/-- A balanced text and what is behind it are renamed one by one. -/
theorem renamed_append (hs : Balanced s) (seam : closes t.toList = false) :
    renamed f (s ++ t) = renamed f s ++ renamed f t := by
  apply String.toList_inj.mp
  rw [String.toList_append, toList_renamed, toList_renamed, toList_renamed, String.toList_append,
    visible_append hs seam, List.map_append, List.flatMap_append]

/-- A plain text in front stays as it is. -/
theorem renamed_front (hs : Plain s) (t : String) : renamed f (s ++ t) = s ++ renamed f t := by
  have same (cs : List Char) :
      ((cs.map Piece.other).map (Template.renamePiece f)).flatMap Piece.chars = cs := by
    rw [List.map_map, List.flatMap_map]
    exact List.flatMap_singleton' cs
  apply String.toList_inj.mp
  rw [String.toList_append, toList_renamed, toList_renamed, String.toList_append,
    visible_front hs.balanced hs.braceless, List.map_append, List.flatMap_append, same]

theorem renamed_plain (hs : Plain s) : renamed f s = s := by
  have := renamed_front f hs ""
  rwa [renamed_empty, String.append_empty] at this

/-- A plain text behind, which closes no placeholder. -/
theorem renamed_back (hs : Balanced s) (ht : Plain t) (seam : closes t.toList = false) :
    renamed f (s ++ t) = renamed f s ++ t := by
  rw [renamed_append f hs seam, renamed_plain f ht]

/-- A placeholder in front gets its new name. -/
theorem renamed_placeholder {p : Placeholder} (h : p.WellFormed) (t : String) :
    renamed f (p.text ++ t) = Placeholder.text ⟨f p.name, p.type⟩ ++ renamed f t := by
  apply String.toList_inj.mp
  rw [String.toList_append, toList_renamed, toList_renamed, String.toList_append,
    visible_placeholder h]
  rfl

/-- Two texts with glue between them. -/
theorem renamed_glued (hs : Balanced s) (hg : Glue g) (t : String) :
    renamed f (s ++ g ++ t) = renamed f s ++ g ++ renamed f t := by
  rw [String.append_assoc, renamed_append f hs (closes_of_starts (hg.starts_append t)),
    renamed_front f hg.plain, String.append_assoc]

/-- Many texts with glue between them. -/
theorem renamed_intercalate (hg : Glue g) {parts : List String} (h : ∀ part ∈ parts, Balanced part) :
    renamed f (g.intercalate parts) = g.intercalate (parts.map (renamed f)) := by
  induction parts with
  | nil => exact renamed_empty f
  | cons a parts ih =>
    cases parts with
    | nil => rw [String.intercalate_singleton, List.map_singleton, String.intercalate_singleton]
    | cons b parts =>
      rw [String.intercalate_cons_cons, renamed_glued f (h a List.mem_cons_self) hg,
        ih fun part hp => h part (List.mem_cons_of_mem a hp)]
      simp only [List.map_cons, String.intercalate_cons_cons]

end

/-! ## Untouched texts -/

/-- A character that is not shown as a blank is shown as it is. -/
theorem eq_of_shown {q : Quoting} {c : Char} (h : q.shown c ≠ ' ') : q.shown c = c := by
  cases q with
  | outside => rfl
  | escape => exact absurd rfl h
  | literal =>
    simp only [Quoting.shown] at h ⊢
    split
    · rfl
    · rename_i hc
      rw [if_neg hc] at h
      exact absurd rfl h
  | identifier =>
    simp only [Quoting.shown] at h ⊢
    split
    · rfl
    · rename_i hc
      rw [if_neg hc] at h
      exact absurd rfl h

/-- What is shown without a blank stands there. -/
theorem front_of_blankChars {q : Quoting} {cs front rest : List Char} (blankless : ' ' ∉ front)
    (h : blankChars q cs = front ++ rest) :
    ∃ ds q', cs = front ++ ds ∧ blankChars q' ds = rest := by
  induction front generalizing q cs with
  | nil => exact ⟨cs, q, rfl, h⟩
  | cons d front ih =>
    rw [List.mem_cons, not_or] at blankless
    cases cs with
    | nil => cases h
    | cons c cs =>
      rw [blankChars, List.cons_append, List.cons.injEq] at h
      obtain ⟨ds, q', rfl, hrest⟩ := ih blankless.2 h.2
      have same : d = c := by
        rw [← h.1]
        exact eq_of_shown fun blank => blankless.1 (blank ▸ h.1)
      exact ⟨ds, q', by rw [same]; rfl, hrest⟩

/-- A placeholder holds no blank. -/
theorem Placeholder.WellFormed.blankless {p : Placeholder} (h : p.WellFormed) :
    ' ' ∉ p.text.toList := by
  intro blank
  rw [Placeholder.toList_text] at blank
  rcases List.mem_cons.mp blank with blank | blank
  · exact absurd blank (by decide)
  · have goes := h.continues_tail ' ' (by rw [Placeholder.toList_text]; exact blank)
    exact absurd goes (by decide)

/-- A balanced text without any placeholder, quoted ones included, is silent: blanking makes none. -/
theorem Silent.of_bare {s : String} (balanced : Balanced s) (bare : placeholdersIn s = []) :
    Silent s := by
  -- on the pieces of what is shown, from whatever state the scan is in
  have general (shown : List Char) : ∀ (q : Quoting) (cs : List Char), blankChars q cs = shown →
      (pieces cs).filterMap Piece.placeholder? = [] →
      (pieces shown).filterMap Piece.placeholder? = [] := by
    induction shown using pieces.induct with
    | case1 shown p rest hit ih =>
      obtain ⟨hp, rfl⟩ := placeholderAt?_eq_some_iff.mp hit
      intro q cs shows bare
      obtain ⟨ds, q', rfl, hrest⟩ := front_of_blankChars hp.blankless shows
      rw [pieces_placeholder hp] at bare
      cases bare
    | case2 hit =>
      intro q cs _ _
      rw [pieces_nil]
      rfl
    | case3 c rest hit ih =>
      intro q cs shows bare
      cases cs with
      | nil => cases shows
      | cons d cs =>
        rw [blankChars, List.cons.injEq] at shows
        cases front : placeholderAt? (d :: cs) with
        | some found =>
          obtain ⟨hp, same⟩ := placeholderAt?_eq_some_iff.mp front
          rw [same, pieces_placeholder hp] at bare
          cases bare
        | none =>
          rw [pieces_other front] at bare
          rw [pieces_other hit]
          exact ih _ cs shows.2 bare
  refine ⟨balanced, ?_⟩
  rw [references_eq]
  exact general _ .outside s.toList rfl bare

/-- A renaming that leaves the names a text refers to leaves the text. -/
theorem renamed_eq_self {f : String → String} {s : String}
    (h : ∀ n ∈ placeholderNames s, f n = n) : renamed f s = s := by
  have fixed : ∀ p ∈ references s, f p.name = p.name := fun p hp =>
    h p.name (mem_placeholderNames.mpr (List.mem_map_of_mem hp))
  rw [references_eq] at fixed
  -- on the pieces of the blanked text, which may begin inside quotes
  have general (shown : List Char) : ∀ (q : Quoting) (cs : List Char), blankChars q cs = shown →
      (∀ p ∈ (pieces shown).filterMap Piece.placeholder?, f p.name = p.name) →
      ((restore (pieces shown) cs).map (Template.renamePiece f)).flatMap Piece.chars = cs := by
    induction shown using pieces.induct with
    | case1 shown p rest hit ih =>
      obtain ⟨hp, rfl⟩ := placeholderAt?_eq_some_iff.mp hit
      intro q cs shows fixed
      obtain ⟨ds, q', rfl, hrest⟩ := front_of_blankChars hp.blankless shows
      rw [pieces_placeholder hp] at fixed ⊢
      have own : f p.name = p.name := fixed p List.mem_cons_self
      have later := ih q' ds hrest fun p hp => fixed p (List.mem_cons_of_mem _ hp)
      show Piece.chars (.placeholder ⟨f p.name, p.type⟩) ++
        ((restore _ ((p.text.toList ++ ds).drop _)).map _).flatMap _ = _
      rw [List.drop_left, later, own]
      rfl
    | case2 hit =>
      intro q cs shows _
      have empty : cs = [] := by
        rw [← List.length_eq_zero_iff, ← length_blankChars q cs, shows]
        rfl
      rw [empty, pieces_nil]
      rfl
    | case3 c rest hit ih =>
      intro q cs shows fixed
      cases cs with
      | nil => cases shows
      | cons d cs =>
        rw [blankChars, List.cons.injEq] at shows
        rw [pieces_other hit] at fixed ⊢
        exact congrArg (d :: ·) (ih _ cs shows.2 fixed)
  apply String.toList_inj.mp
  rw [toList_renamed]
  exact general _ .outside s.toList rfl fixed

end TraceQuery.Sql
