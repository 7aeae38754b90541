/-
  A filter that searches a text finds what is written in it.

  The condition hands a pattern to the server, and a pattern has characters with a meaning.

  1. **Rule** (`readPattern`, `Matches`): `%` stands for any text, `_` for any one character, and a
     backslash in front of one of these or of another backslash makes it stand for itself.  Any other
     character is compared through `fold`, which may forget its case.  A pattern matches if there is some
     way to read the text along it; the rule does not say how to find one.
  2. **Escaped characters** are compared through `keep`.  They may be taken as they are or folded like the
     others: a case folding (`CaseFolding`) has the three of them stand alone, so it makes no difference.
  3. **Escaping** (`inPasses_like`, `readPattern_likeChar`): the text is escaped in three passes, backslashes
     first, so that no pass sees what another one has put in.  Read back, each character of it stands for
     itself.
  4. **Searching** (`matches_items`, `matches_containing`): so between two `%` it matches exactly the texts
     with a stretch that is the same under `fold`.

  Mathlib-free.
-/
import TraceQuery.Filter.Column
import TraceQuery.Proofs.Sql.Embedding

namespace TraceQuery

/-! ## The rule -/

namespace Sql

/-- What a pattern is made of. -/
inductive PatternItem where
  /-- A percent sign. -/
  | anyText
  /-- An underscore. -/
  | anyChar
  /-- A character with a meaning that a backslash takes from it. -/
  | escaped (c : Char)
  /-- Any other character. -/
  | literal (c : Char)
deriving DecidableEq, Repr

/-- What a character means that is not escaped. -/
def PatternItem.ofChar (c : Char) : PatternItem :=
  if c = '%' then anyText else if c = '_' then anyChar else literal c

/-- A pattern as it is read.  In front of any other character a backslash stands for itself. -/
def readPattern : List Char → List PatternItem
  | [] => []
  | [c] => [.ofChar c]
  | c :: d :: cs =>
    if c = '\\' ∧ (d = '%' ∨ d = '_' ∨ d = '\\') then .escaped d :: readPattern cs
    else .ofChar c :: readPattern (d :: cs)

/-- The texts that a pattern matches, where characters are compared through `fold`, and escaped ones
    through `keep`. -/
inductive Matches (fold keep : Char → Char) : List PatternItem → List Char → Prop
  | nil : Matches fold keep [] []
  | anyText (skipped : List Char) {items : List PatternItem} {cs : List Char}
      (rest : Matches fold keep items cs) : Matches fold keep (.anyText :: items) (skipped ++ cs)
  | anyChar (c : Char) {items : List PatternItem} {cs : List Char}
      (rest : Matches fold keep items cs) : Matches fold keep (.anyChar :: items) (c :: cs)
  | escaped {c d : Char} {items : List PatternItem} {cs : List Char} (same : keep d = keep c)
      (rest : Matches fold keep items cs) : Matches fold keep (.escaped c :: items) (d :: cs)
  | literal {c d : Char} {items : List PatternItem} {cs : List Char} (same : fold d = fold c)
      (rest : Matches fold keep items cs) : Matches fold keep (.literal c :: items) (d :: cs)

/-- A way to forget the case of characters.  The characters with a meaning in a pattern have none. -/
structure CaseFolding where
  fold : Char → Char
  alone : ∀ c, isLikeSpecial c = true → ∀ d, fold d = fold c → d = c

/-- There are three characters with a meaning. -/
theorem eq_of_isLikeSpecial {c : Char} (h : isLikeSpecial c = true) : c = '%' ∨ c = '_' ∨ c = '\\' := by
  simp only [isLikeSpecial, Bool.or_eq_true, beq_iff_eq] at h
  rcases h with (h | h) | h
  · exact .inr (.inr h)
  · exact .inl h
  · exact .inr (.inl h)

/-- The small letters of ASCII stand for the capitals too. -/
instance : Inhabited CaseFolding where
  default := by
    refine ⟨Char.toLower, fun c special d same => ?_⟩
    have one := eq_of_isLikeSpecial special
    have fixed : c.toLower = c := by
      rcases one with rfl | rfl | rfl
      · rfl
      · rfl
      · rfl
    rw [fixed] at same
    delta Char.toLower at same
    split at same
    -- a capital becomes a letter, and none of the three is one
    · rename_i capital
      have code := congrArg (fun c => c.val.toNat) same
      have low := UInt32.le_iff_toNat_le.mp capital.1
      have high := UInt32.le_iff_toNat_le.mp capital.2
      rcases one with rfl | rfl | rfl <;> simp [UInt32.toNat_add] at code low high <;> omega
    · exact same

/-! ## Escaping -/

/-- Three passes, backslashes first, do what one pass over the characters does. -/
theorem inPasses_like (cs : List Char) :
    replaced '_' ['\\', '_'] (replaced '%' ['\\', '%'] (replaced '\\' ['\\', '\\'] cs))
      = cs.flatMap likeChar := by
  simp only [replaced, List.flatMap_assoc]
  congr 1
  funext c
  -- what a pass puts in front is a backslash, which no later pass looks for
  by_cases escape : c = '\\'
  · subst escape
    rfl
  · by_cases percent : c = '%'
    · subst percent
      rfl
    · by_cases underscore : c = '_'
      · subst underscore
        rfl
      · simp [likeChar, isLikeSpecial, escape, percent, underscore]

/-- How a character of a text stands in its pattern. -/
def PatternItem.ofText (c : Char) : PatternItem := if isLikeSpecial c then escaped c else literal c

/-- Read back, an escaped character stands for itself. -/
theorem readPattern_likeChar (c : Char) (rest : List Char) :
    readPattern (likeChar c ++ rest) = .ofText c :: readPattern rest := by
  by_cases special : isLikeSpecial c = true
  · rw [likeChar, if_pos special, PatternItem.ofText, if_pos special]
    show readPattern ('\\' :: c :: rest) = _
    rw [readPattern, if_pos ⟨rfl, eq_of_isLikeSpecial special⟩]
  · rw [likeChar, if_neg special, PatternItem.ofText, if_neg special]
    simp only [isLikeSpecial, Bool.or_eq_true, beq_iff_eq, not_or] at special
    obtain ⟨⟨noEscape, noPercent⟩, noUnderscore⟩ := special
    -- a character without a meaning is not escaped, and is no backslash that could escape the next
    have plain : PatternItem.ofChar c = .literal c := by
      rw [PatternItem.ofChar, if_neg noPercent, if_neg noUnderscore]
    cases rest with
    | nil => exact congrArg (· :: []) plain
    | cons d rest =>
      show readPattern (c :: d :: rest) = _
      rw [readPattern, if_neg fun both => noEscape both.1, plain]

/-- A percent sign that is not escaped stands for any text. -/
theorem readPattern_percent (cs : List Char) : readPattern ('%' :: cs) = .anyText :: readPattern cs := by
  cases cs with
  | nil => rfl
  | cons c cs =>
    rw [readPattern, if_neg fun both => absurd both.1 (by decide)]
    rfl

/-- The pattern of a search is the text between two stretches that may be anything. -/
theorem readPattern_containing (s : String) :
    readPattern (containing s).toList = .anyText :: (s.toList.map .ofText ++ [.anyText]) := by
  have chars : (containing s).toList = '%' :: (s.toList.flatMap likeChar ++ ['%']) := by
    simp [containing, escapeLike]
  rw [chars, readPattern_percent, read_flatMap readPattern_likeChar]
  rfl

example : readPattern (containing "5%\\").toList
    = [.anyText, .literal '5', .escaped '%', .escaped '\\', .anyText] := by decide

/-! ## Searching -/

/-- A text with a stretch in it that is the same as another text under `fold`. -/
def HoldsUpTo (fold : Char → Char) (text subject : List Char) : Prop :=
  ∃ before found behind, subject = before ++ found ++ behind ∧
    found.length = text.length ∧ found.map fold = text.map fold

section Searching

variable {fold keep : Char → Char} {items : List PatternItem}

/-- Any text can be skipped, and the rest is matched from where that ends. -/
theorem matches_anyText {cs : List Char} :
    Matches fold keep (.anyText :: items) cs ↔
      ∃ skipped rest, cs = skipped ++ rest ∧ Matches fold keep items rest := by
  constructor
  · intro h
    cases h with
    | anyText skipped rest => exact ⟨skipped, _, rfl, rest⟩
  · rintro ⟨skipped, rest, rfl, h⟩
    exact .anyText skipped h

variable (agree : ∀ c, isLikeSpecial c = true → ∀ d, keep d = keep c ↔ fold d = fold c)

include agree

/-- A character that stands for itself matches one that is the same under `fold`. -/
theorem matches_ofText {c : Char} {cs : List Char} :
    Matches fold keep (.ofText c :: items) cs ↔
      ∃ d rest, cs = d :: rest ∧ fold d = fold c ∧ Matches fold keep items rest := by
  rw [PatternItem.ofText]
  split
  · rename_i special
    constructor
    · intro h
      cases h with
      | escaped same rest => exact ⟨_, _, rfl, (agree c special _).mp same, rest⟩
    · rintro ⟨d, rest, rfl, same, h⟩
      exact .escaped ((agree c special d).mpr same) h
  · constructor
    · intro h
      cases h with
      | literal same rest => exact ⟨_, _, rfl, same, rest⟩
    · rintro ⟨d, rest, rfl, same, h⟩
      exact .literal same h

/-- Characters that stand for themselves match a front of the text that is the same under `fold`. -/
theorem matches_items (text : List Char) {cs : List Char} :
    Matches fold keep (text.map .ofText ++ items) cs ↔
      ∃ found rest, cs = found ++ rest ∧ found.map fold = text.map fold ∧
        Matches fold keep items rest := by
  -- on the text that is searched for: each of its characters takes one of the subject
  induction text generalizing cs with
  | nil =>
    constructor
    · intro h
      exact ⟨[], cs, rfl, rfl, h⟩
    · rintro ⟨found, rest, rfl, same, h⟩
      rw [List.map_eq_nil_iff.mp same]
      exact h
  | cons c text ih =>
    rw [List.map_cons, List.cons_append, matches_ofText agree]
    constructor
    · rintro ⟨d, rest, rfl, same, h⟩
      obtain ⟨found, behind, rfl, more, h⟩ := ih.mp h
      exact ⟨d :: found, behind, rfl, by rw [List.map_cons, List.map_cons, same, more], h⟩
    · rintro ⟨found, rest, rfl, same, h⟩
      cases found with
      | nil => cases same
      | cons d found =>
        rw [List.map_cons, List.map_cons, List.cons.injEq] at same
        exact ⟨d, found ++ rest, rfl, same.1, ih.mpr ⟨found, rest, rfl, same.2, h⟩⟩

/-- A search finds a text that is written somewhere, up to `fold`. -/
theorem matches_containing (s : String) (subject : List Char) :
    Matches fold keep (readPattern (containing s).toList) subject ↔
      HoldsUpTo fold s.toList subject := by
  rw [readPattern_containing, matches_anyText]
  constructor
  · rintro ⟨before, rest, rfl, h⟩
    -- the first percent sign has taken what stands before, and the second takes what stands behind
    obtain ⟨found, behind, rfl, same, _⟩ := (matches_items agree s.toList).mp h
    have length := congrArg List.length same
    rw [List.length_map, List.length_map] at length
    exact ⟨before, found, behind, (List.append_assoc _ _ _).symm, length, same⟩
  · rintro ⟨before, found, behind, rfl, _, same⟩
    refine ⟨before, found ++ behind, List.append_assoc _ _ _, ?_⟩
    refine (matches_items agree s.toList).mpr ⟨found, behind, rfl, same, ?_⟩
    -- whatever is left is any text
    have : Matches fold keep [.anyText] (behind ++ []) := .anyText behind .nil
    rwa [List.append_nil] at this

end Searching

end Sql

open TraceQuery.Sql

/-! ## Filters -/

/-- Both operators that search bind one pattern, and it matches exactly the texts that hold the value of
    the filter up to the case of its characters, whether escaped characters are folded or not. -/
theorem ColumnFilter.search_finds_text (sql column key : String) (v : FilterValue) :
    ∃ pattern : String,
      (string sql).apply ⟨column, .contains, v⟩ key
        = .ok (some ⟨sql ++ " ILIKE " ++ placeholder key .string, [(key, .string pattern)]⟩) ∧
      (string sql).apply ⟨column, .notContains, v⟩ key
        = .ok (some ⟨sql ++ " NOT ILIKE " ++ placeholder key .string, [(key, .string pattern)]⟩) ∧
      pattern = "%" ++ escapeLike v.toText ++ "%" ∧
      (escapeLike v.toText).toList = replaced '_' ['\\', '_']
        (replaced '%' ['\\', '%'] (replaced '\\' ['\\', '\\'] v.toText.toList)) ∧
      (∀ (fold : Char → Char) (subject : String),
        Matches fold fold (readPattern pattern.toList) subject.toList ↔
          HoldsUpTo fold v.toText.toList subject.toList) ∧
      ∀ (folding : CaseFolding) (subject : String),
        Matches folding.fold id (readPattern pattern.toList) subject.toList ↔
          HoldsUpTo folding.fold v.toText.toList subject.toList := by
  refine ⟨containing v.toText, rfl, rfl, rfl, ?_, ?_, ?_⟩
  · rw [inPasses_like, escapeLike, String.toList_ofList]
  · intro fold subject
    exact matches_containing (fun _ _ _ => Iff.rfl) v.toText subject.toList
  · intro folding subject
    refine matches_containing (fun c special d => ?_) v.toText subject.toList
    constructor
    · intro same
      exact congrArg folding.fold same
    · exact folding.alone c special d

end TraceQuery
