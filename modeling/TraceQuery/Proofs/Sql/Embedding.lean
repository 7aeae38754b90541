/-
  Names written into a query.

  A name that comes from outside is written between quotes, and the query around it is read as if the name
  were empty.

  1. **Passes** (`inPasses_literal`, `inPasses_identifier`): quoting one character at a time is the same as
     replacing the special characters one after the other in the whole text, backslashes first.  In the
     other order the backslashes in front of the quotes would be doubled.
  2. **Neutral** (`Glue.references_around`): a quoted name closes no placeholder in front of it, shows no
     brace, and leaves the scan outside quotes.  So a text with it refers to what its two sides refer to,
     also when a span is open at the end of the second one.
  3. **Undoing** (`read_flatMap`): a reader that takes back what was written for one character takes back
     what was written for a text.  With escapes that reader is `denoted`, with doubling `undoubled`.

  Mathlib-free.
-/
import TraceQuery.Proofs.Sql.Lexemes
import TraceQuery.Proofs.Sql.Reading

namespace TraceQuery.Sql

/-! ## Passes -/

/-- A text with one of its characters replaced everywhere. -/
def replaced (c : Char) (new : List Char) (cs : List Char) : List Char :=
  cs.flatMap fun d => if d = c then new else [d]

/-- A literal is written in two passes, backslashes before quotes. -/
theorem inPasses_literal (cs : List Char) :
    replaced singleQuote [backslash, singleQuote] (replaced backslash [backslash, backslash] cs)
      = cs.flatMap literalChar := by
  rw [replaced, replaced, List.flatMap_assoc]
  congr 1
  funext c
  by_cases escaped : c = backslash
  · subst escaped
    rfl
  · by_cases quote : c = singleQuote
    · subst quote
      rfl
    · simp [literalChar, escaped, quote]

/-- An identifier is written in one pass, which doubles its backticks. -/
theorem inPasses_identifier (cs : List Char) :
    replaced backtick [backtick, backtick] cs = cs.flatMap identifierChar := rfl

/-! ## Neutral -/

/-- A plain text with a quote in front can stand between any two texts. -/
theorem glue_of_quote {quote : Char} {cs : List Char} (hq : continues quote = false)
    (plain : Plain (String.ofList (quote :: cs))) : Glue (String.ofList (quote :: cs)) := by
  refine ⟨plain, ?_, ?_⟩
  · rw [String.toList_ofList, starts, hq]
    rfl
  · intro empty
    have := congrArg String.toList empty
    rw [String.toList_ofList] at this
    cases this

theorem glue_quoteLiteral (s : String) : Glue (quoteLiteral s) :=
  glue_of_quote (by decide) (plain_quoteLiteral s)

theorem glue_quoteIdentifier (s : String) : Glue (quoteIdentifier s) :=
  glue_of_quote (by decide) (plain_quoteIdentifier s)

/-- Behind a balanced text and glue any text refers to what it refers to where it stands alone. -/
theorem Glue.references_around {a g : String} (hg : Glue g) (ha : Balanced a) (b : String) :
    references (a ++ g ++ b) = references a ++ references b := by
  -- the glue is no part of a placeholder, so none that is open in front of it is closed behind it
  have seam : closes (blankChars .outside (g ++ b).toList) = false := by
    rw [closes_blankChars]
    exact closes_of_starts (hg.starts_append b)
  rw [references_eq, String.append_assoc, ha.blank_append, pieces_append seam,
    hg.plain.balanced.blank_append, pieces_front hg.plain.braceless, List.filterMap_append,
    List.filterMap_append, filterMap_others, List.nil_append, ← references_eq, ← references_eq]

/-- One glue is as good as another. -/
theorem Glue.placeholderNames_around {a g h : String} (hg : Glue g) (hh : Glue h) (ha : Balanced a)
    (b : String) : placeholderNames (a ++ g ++ b) = placeholderNames (a ++ h ++ b) := by
  have same : references (a ++ g ++ b) = references (a ++ h ++ b) := by
    rw [hg.references_around ha, hh.references_around ha]
  exact congrArg (fun refs => nameSet (refs.map Placeholder.name)) same

/-! ## Undoing -/

/-- A reader that takes back one written character takes back a whole text, whatever follows. -/
theorem read_flatMap {α : Type} {read : List Char → List α} {write : Char → List Char} {item : Char → α}
    (step : ∀ c rest, read (write c ++ rest) = item c :: read rest) (cs rest : List Char) :
    read (cs.flatMap write ++ rest) = cs.map item ++ read rest := by
  induction cs with
  | nil => rfl
  | cons c cs ih => rw [List.flatMap_cons, List.append_assoc, step, ih, List.map_cons, List.cons_append]

/-- What is left when each doubled backtick is made one. -/
def undoubled : List Char → List Char
  | [] => []
  | [c] => [c]
  | c :: d :: cs =>
    if c = backtick ∧ d = backtick then backtick :: undoubled cs else c :: undoubled (d :: cs)

/-- What is written for one character of a literal is taken back as it. -/
theorem denoted_literalChar (c : Char) (rest : List Char) :
    denoted (literalChar c ++ rest) = c :: denoted rest := by
  by_cases special : c = backslash ∨ c = singleQuote
  · rw [literalChar, if_pos special]
    show denoted (backslash :: c :: rest) = _
    rw [denoted, if_pos rfl]
  · rw [literalChar, if_neg special]
    rw [not_or] at special
    cases rest with
    | nil => rfl
    | cons d rest =>
      show denoted (c :: d :: rest) = _
      rw [denoted, if_neg special.1]

theorem undoubled_identifierChar (c : Char) (rest : List Char) :
    undoubled (identifierChar c ++ rest) = c :: undoubled rest := by
  by_cases quote : c = backtick
  · rw [identifierChar, if_pos quote, quote]
    show undoubled (backtick :: backtick :: rest) = _
    rw [undoubled, if_pos ⟨rfl, rfl⟩]
  · rw [identifierChar, if_neg quote]
    cases rest with
    | nil => rfl
    | cons d rest =>
      show undoubled (c :: d :: rest) = _
      rw [undoubled, if_neg fun both => quote both.1]

theorem denoted_literal (cs : List Char) : denoted (cs.flatMap literalChar) = cs := by
  have read : denoted (cs.flatMap literalChar ++ []) = cs.map id ++ [] :=
    read_flatMap denoted_literalChar cs []
  rwa [List.append_nil, List.append_nil, List.map_id] at read

theorem undoubled_identifier (cs : List Char) : undoubled (cs.flatMap identifierChar) = cs := by
  have read : undoubled (cs.flatMap identifierChar ++ []) = cs.map id ++ [] :=
    read_flatMap undoubled_identifierChar cs []
  rwa [List.append_nil, List.append_nil, List.map_id] at read

/-- What can be taken back was written for one text only. -/
theorem injective_of_undo {quote : Char} {write : Char → List Char} {undo : List Char → List Char}
    (h : ∀ cs, undo (cs.flatMap write) = cs) :
    Function.Injective fun s : String => String.ofList (quote :: s.toList.flatMap write ++ [quote]) := by
  intro s t same
  have chars := congrArg String.toList same
  simp only [String.toList_ofList, List.cons_append, List.cons.injEq, true_and,
    List.append_cancel_right_eq] at chars
  have undone := congrArg undo chars
  rw [h, h] at undone
  exact String.toList_inj.mp undone

/-- Two texts that are quoted alike are one. -/
theorem quoteLiteral_injective : Function.Injective quoteLiteral :=
  injective_of_undo denoted_literal

theorem quoteIdentifier_injective : Function.Injective quoteIdentifier :=
  injective_of_undo undoubled_identifier

/-! ## Quoted names -/

/-- Whatever name is quoted in a query, the query refers to what it refers to around an empty name, and
    the name can be read back. -/
theorem quoting_neutral (s : String) :
    (∀ a b, Balanced a →
      placeholderNames (a ++ quoteLiteral s ++ b) = placeholderNames (a ++ quoteLiteral "" ++ b) ∧
      placeholderNames (a ++ quoteIdentifier s ++ b)
        = placeholderNames (a ++ quoteIdentifier "" ++ b)) ∧
    (∃ body, (quoteLiteral s).toList = singleQuote :: (body ++ [singleQuote]) ∧
      body = replaced singleQuote [backslash, singleQuote]
        (replaced backslash [backslash, backslash] s.toList) ∧
      denoted body = s.toList) ∧
    (∃ body, (quoteIdentifier s).toList = backtick :: (body ++ [backtick]) ∧
      body = replaced backtick [backtick, backtick] s.toList ∧ undoubled body = s.toList) ∧
    ∀ t, t ≠ s → quoteLiteral t ≠ quoteLiteral s ∧ quoteIdentifier t ≠ quoteIdentifier s := by
  refine ⟨fun a b ha => ⟨?_, ?_⟩, ⟨s.toList.flatMap literalChar, ?_, ?_, ?_⟩,
    ⟨s.toList.flatMap identifierChar, ?_, ?_, ?_⟩, fun t other => ⟨?_, ?_⟩⟩
  · exact (glue_quoteLiteral s).placeholderNames_around (glue_quoteLiteral "") ha b
  · exact (glue_quoteIdentifier s).placeholderNames_around (glue_quoteIdentifier "") ha b
  · exact String.toList_ofList
  · exact (inPasses_literal s.toList).symm
  · exact denoted_literal s.toList
  · exact String.toList_ofList
  · exact (inPasses_identifier s.toList).symm
  · exact undoubled_identifier s.toList
  · exact fun same => other (quoteLiteral_injective same)
  · exact fun same => other (quoteIdentifier_injective same)

/-- A name with both quotes, a backslash and a placeholder, between a text with a placeholder and one
    that opens a span and never closes it. -/
theorem quoting_neutral_unclosed :
    Balanced "m['a\\'b'] = \x7bm:String\x7d, " ∧
    placeholderNames ("m['a\\'b'] = \x7bm:String\x7d, " ++ quoteLiteral "'`\\\x7bx:Int64\x7d" ++
      " \x7bn:Int64\x7d `\x7bo:Int64\x7d") = ["m", "n"] := by
  have balanced : Balanced "m['a\\'b'] = \x7bm:String\x7d, " := by decide
  obtain ⟨neutral, _⟩ := quoting_neutral "'`\\\x7bx:Int64\x7d"
  refine ⟨balanced, ?_⟩
  rw [(neutral _ _ balanced).1]
  decide +kernel

end TraceQuery.Sql
