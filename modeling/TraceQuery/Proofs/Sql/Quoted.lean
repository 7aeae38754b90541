/-
  Placeholders inside quotes.

  A query refers to the placeholders outside its quotes, and a template has and renames all that stand in
  its text.  The two scans agree exactly as far as no placeholder is quoted, and this file says how far
  that is.

  1. **Spans** (`SpanOf`): a literal or an identifier with its quotes, cut out of a text where no span is
     open in front of it.  One that is never closed goes on to the end of the text.
  2. **Names** (`Template.mem_names_iff`): a template has the names that its text refers to, and besides
     them those of its quoted placeholders (`QuotedIn`).
  3. **Parts** (`SpanOf.bindTo_eq`): no placeholder reaches over a quote, so a template is bound part by
     part, and the spans are parts.
  4. **Crux** (`exists_spanOf`): around a quoted placeholder there is a span with all of it inside.  Bound
     to a key the span gets longer (`length_renamedChars`), so it is not kept, whatever the key is.

  Mathlib-free.
-/
import TraceQuery.Proofs.Sql.Templates

namespace TraceQuery.Sql

/-! ## Spans -/

/-- A text through which a reader stays inside quotes, up to its last character. -/
inductive StaysIn : Quoting → List Char → Prop
  /-- Nothing left to read. -/
  | nil (q : Quoting) : StaysIn q []
  /-- The reader is inside in front of the character, and goes on from behind it. -/
  | cons {q : Quoting} {c : Char} {cs : List Char} (inside : q ≠ .outside)
      (rest : StaysIn (q.next c) cs) : StaysIn q (c :: cs)

/-- A text that opens a span and does not leave it before its last character. -/
inductive Span : List Char → Prop
  /-- Behind a single quote the reader is in a literal, -/
  | literal {body : List Char} (rest : StaysIn .literal body) : Span (singleQuote :: body)
  /-- and behind a backtick in an identifier. -/
  | identifier {body : List Char} (rest : StaysIn .identifier body) : Span (backtick :: body)

/-- A whole span of a text: none is open in front of it, and it goes on to the quote that closes it or,
    without one, to the end of the text. -/
structure SpanOf (text before span behind : String) : Prop where
  /-- The text is what is in front of the span, the span, and what is behind it. -/
  split : text = before ++ span ++ behind
  /-- No span is open in front of it. -/
  front : Unspanned before.toList
  /-- It stays inside quotes to its last character, -/
  quoted : Span span.toList
  /-- which closes it, unless nothing comes behind. -/
  ends : Unspanned span.toList ∨ behind = ""

/-- A placeholder that stands in a text where a span is open. -/
def QuotedIn (p : Placeholder) (text : String) : Prop :=
  p.WellFormed ∧ ∃ a b, text.toList = a ++ (p.text.toList ++ b) ∧ ¬ Unspanned a

namespace StaysIn

variable {q : Quoting} {c : Char} {xs ys : List Char}

/-- Two texts through which the reader stays inside are one. -/
theorem append (hx : StaysIn q xs) (hy : StaysIn (q.after xs) ys) : StaysIn q (xs ++ ys) := by
  induction hx with
  | nil q => exact hy
  | cons inside rest ih => exact .cons inside (ih hy)

/-- In front of any of its characters the reader is inside. -/
theorem after_ne (h : StaysIn q (xs ++ c :: ys)) : q.after xs ≠ .outside := by
  induction xs generalizing q with
  | nil =>
    cases h with
    | cons inside rest => exact inside
  | cons x xs ih =>
    cases h with
    | cons inside rest => exact ih rest

/-- What neither opens nor closes a span is all inside the span that it stands in. -/
theorem of_continues {cs : List Char} (h : ∀ d ∈ cs, continues d = true) (hq : q ≠ .outside)
    (he : q ≠ .escape) : StaysIn q cs := by
  induction cs with
  | nil => exact .nil q
  | cons d cs ih =>
    refine .cons hq ?_
    rw [next_of_continues (h d List.mem_cons_self) he]
    exact ih fun e hd => h e (List.mem_cons_of_mem d hd)

/-- A placeholder that begins inside a span is all inside. -/
theorem placeholder {p : Placeholder} (h : p.WellFormed) (hq : q ≠ .outside) :
    StaysIn q p.text.toList := by
  have tail := h.continues_tail
  obtain ⟨noEscape, same⟩ := next_openBrace q
  rw [Placeholder.toList_text] at tail ⊢
  exact .cons hq (of_continues tail (fun e => hq (same.mp e)) noEscape)

end StaysIn

/-- Where a span is open at the end of a text, it has been opened somewhere in it. -/
theorem exists_opening {q : Quoting} {cs : List Char} (h : q.after cs ≠ .outside) :
    StaysIn q cs ∧ q ≠ .outside ∨
    ∃ a c b, cs = a ++ c :: b ∧ q.after a = .outside ∧ Quoting.outside.next c ≠ .outside ∧
      StaysIn (Quoting.outside.next c) b := by
  induction cs generalizing q with
  | nil => exact .inl ⟨.nil q, h⟩
  | cons c cs ih =>
    -- the span was open behind the first character, or it was opened further on
    rcases ih h with ⟨rest, inside⟩ | ⟨a, d, b, rfl, before, opens, rest⟩
    · by_cases hq : q = .outside
      · rw [hq] at rest inside
        exact .inr ⟨[], c, cs, rfl, hq, inside, rest⟩
      · exact .inl ⟨.cons hq rest, hq⟩
    · exact .inr ⟨c :: a, d, b, rfl, before, opens, rest⟩

/-- From inside a span the text goes on to where it is closed, or to its end. -/
theorem exists_closing {q : Quoting} (hq : q ≠ .outside) (cs : List Char) :
    ∃ s b, cs = s ++ b ∧ StaysIn q s ∧ (q.after s = .outside ∨ b = []) := by
  induction cs generalizing q with
  | nil => exact ⟨[], [], rfl, .nil q, .inr rfl⟩
  | cons c cs ih =>
    by_cases closed : q.next c = .outside
    · exact ⟨[c], cs, rfl, .cons hq (.nil _), .inl closed⟩
    · obtain ⟨s, b, rfl, rest, ends⟩ := ih closed
      exact ⟨c :: s, b, rfl, .cons hq rest, ends⟩

/-- What opens a span is a quote. -/
theorem span_of_next {c : Char} {body : List Char} (opens : Quoting.outside.next c ≠ .outside)
    (rest : StaysIn (Quoting.outside.next c) body) : Span (c :: body) := by
  by_cases literal : c = singleQuote
  · subst literal
    exact .literal rest
  · by_cases identifier : c = backtick
    · subst identifier
      exact .identifier rest
    · exact absurd (by simp [Quoting.next, literal, identifier]) opens

/-- Around a quoted placeholder there is a span with all of it inside. -/
theorem exists_spanOf {p : Placeholder} {text : String} (h : QuotedIn p text) :
    ∃ before span behind, SpanOf text before span behind ∧ .placeholder p ∈ pieces span.toList := by
  obtain ⟨formed, xs, ys, split, open?⟩ := h
  rw [unspanned_iff] at open?
  rcases exists_opening open? with ⟨_, outside⟩ | ⟨a, c, b, rfl, front, opens, rest⟩
  · exact absurd rfl outside
  · have inside : (Quoting.outside.next c).after b ≠ .outside := by
      rw [Quoting.after_append, front] at open?
      exact open?
    have behindIt : ((Quoting.outside.next c).after b).after p.text.toList ≠ .outside := by
      rw [formed.after]
      exact fun e => inside ((next_openBrace _).2.mp e)
    obtain ⟨s, rest', rfl, stays, ends⟩ := exists_closing behindIt ys
    -- from the opening quote over the placeholder to the closing quote
    have body : StaysIn (Quoting.outside.next c) (b ++ (p.text.toList ++ s)) :=
      rest.append ((StaysIn.placeholder formed inside).append stays)
    refine ⟨String.ofList a, String.ofList (c :: (b ++ (p.text.toList ++ s))), String.ofList rest',
      ⟨?_, ?_, ?_, ?_⟩, ?_⟩
    · apply String.toList_inj.mp
      rw [split]
      simp
    · rw [String.toList_ofList]
      exact unspanned_iff.mpr front
    · rw [String.toList_ofList]
      exact span_of_next opens body
    · rcases ends with closed | atEnd
      · refine .inl ?_
        rw [String.toList_ofList, unspanned_iff, Quoting.after_cons, Quoting.after_append,
          Quoting.after_append]
        exact closed
      · rw [atEnd]
        exact .inr rfl
    · rw [String.toList_ofList]
      exact mem_pieces.mpr ⟨formed, c :: b, s, rfl⟩

/-- What stands in a span is quoted. -/
theorem SpanOf.quotedIn {text before span behind : String} (h : SpanOf text before span behind)
    {p : Placeholder} (hp : .placeholder p ∈ pieces span.toList) : QuotedIn p text := by
  obtain ⟨formed, xs, ys, inside⟩ := mem_pieces.mp hp
  refine ⟨formed, before.toList ++ xs, ys ++ behind.toList, ?_, ?_⟩
  · rw [h.split, String.toList_append, String.toList_append, inside]
    simp only [List.append_assoc]
  · rw [unspanned_iff, Quoting.after_append, h.front.after]
    have shape := h.quoted
    rw [inside, Placeholder.toList_text, List.cons_append] at shape
    -- the span begins with its quote, and the placeholder with its brace
    cases xs with
    | nil => cases shape
    | cons x xs =>
      cases shape with
      | literal rest => exact rest.after_ne
      | identifier rest => exact rest.after_ne

/-! ## Parts -/

section Seams

variable {quote : Char} (hq : quote = singleQuote ∨ quote = backtick)

include hq

/-- A quote closes no placeholder. -/
theorem closes_quote (cs : List Char) : closes (quote :: cs) = false := by
  refine closes_of_starts ?_
  rcases hq with rfl | rfl
  · rfl
  · rfl

/-- Nor does it open one. -/
theorem pieces_quote (cs : List Char) : pieces (quote :: cs) = .other quote :: pieces cs := by
  refine pieces_other (placeholderAt?_of_ne ?_ cs)
  rcases hq with rfl | rfl
  · decide
  · decide

end Seams

/-- What closes a span is a quote. -/
theorem quote_of_next {q : Quoting} {c : Char} (hq : q ≠ .outside) (closed : q.next c = .outside) :
    c = singleQuote ∨ c = backtick := by
  cases q with
  | outside => exact absurd rfl hq
  | literal =>
    simp only [Quoting.next] at closed
    split at closed
    · cases closed
    · split at closed
      · exact .inl ‹_›
      · cases closed
  | escape => cases closed
  | identifier =>
    simp only [Quoting.next] at closed
    split at closed
    · exact .inr ‹_›
    · cases closed

/-- A text at whose end the reader comes out ends with a quote. -/
theorem StaysIn.exists_concat {q : Quoting} {cs : List Char} (h : StaysIn q cs) (hq : q ≠ .outside)
    (closed : q.after cs = .outside) :
    ∃ body quote, cs = body ++ [quote] ∧ (quote = singleQuote ∨ quote = backtick) := by
  induction h with
  | nil q => exact absurd closed hq
  | @cons q c cs inside rest ih =>
    by_cases here : q.next c = .outside
    · cases rest with
      | nil => exact ⟨[], c, rfl, quote_of_next inside here⟩
      | cons later _ => exact absurd here later
    · obtain ⟨body, quote, rfl, hquote⟩ := ih here closed
      exact ⟨c :: body, quote, rfl, hquote⟩

/-- A span begins with a quote, and one that is closed ends with another. -/
theorem Span.quotes {cs : List Char} (h : Span cs) :
    (∃ quote body, cs = quote :: body ∧ (quote = singleQuote ∨ quote = backtick)) ∧
    (Unspanned cs → ∃ body quote, cs = body ++ [quote] ∧ (quote = singleQuote ∨ quote = backtick)) := by
  have closing {c : Char} {body : List Char} (opens : Quoting.outside.next c ≠ .outside)
      (rest : StaysIn (Quoting.outside.next c) body) (closed : Unspanned (c :: body)) :
      ∃ front quote, c :: body = front ++ [quote] ∧ (quote = singleQuote ∨ quote = backtick) := by
    obtain ⟨front, quote, rfl, hq⟩ := rest.exists_concat opens (unspanned_iff.mp closed)
    exact ⟨c :: front, quote, rfl, hq⟩
  cases h with
  | literal rest => exact ⟨⟨_, _, rfl, .inl rfl⟩, closing (by decide) rest⟩
  | identifier rest => exact ⟨⟨_, _, rfl, .inr rfl⟩, closing (by decide) rest⟩

section Parts

variable {text before span behind : String}

/-- No placeholder reaches over a quote, so a text is cut up span by span. -/
theorem SpanOf.pieces_eq (h : SpanOf text before span behind) :
    pieces text.toList = pieces before.toList ++ pieces span.toList ++ pieces behind.toList := by
  obtain ⟨⟨quote, body, opening, hq⟩, closing⟩ := h.quoted.quotes
  rw [h.split, String.toList_append, String.toList_append, List.append_assoc, List.append_assoc,
    opening, List.cons_append, pieces_append (closes_quote hq _), ← List.cons_append, ← opening]
  rcases h.ends with closed | atEnd
  · obtain ⟨body, quote, ending, hq⟩ := closing closed
    rw [ending, List.append_assoc, List.singleton_append, pieces_append (closes_quote hq _),
      pieces_append (closes_quote hq _), pieces_quote hq, pieces_quote hq, pieces_nil,
      List.append_assoc]
    rfl
  · rw [atEnd]
    show _ ++ pieces (span.toList ++ []) = _ ++ (_ ++ pieces [])
    rw [List.append_nil, pieces_nil, List.append_nil]

/-- A template is bound span by span. -/
theorem SpanOf.bindTo_eq (h : SpanOf text before span behind) (key : String) :
    Template.bindTo ⟨text⟩ key
      = Template.bindTo ⟨before⟩ key ++ Template.bindTo ⟨span⟩ key ++ Template.bindTo ⟨behind⟩ key := by
  apply String.toList_inj.mp
  simp only [Template.bindTo, String.toList_append, Template.toList_rename, renamedChars]
  rw [h.pieces_eq, List.map_append, List.map_append, List.flatMap_append, List.flatMap_append]

end Parts

/-! ## Lengths -/

/-- A name under a key is longer by the key and an underscore. -/
theorem length_boundName (key : String) {name : String} (h : isName name.toList = true) :
    (boundName key name).toList.length = name.toList.length + (key.toList.length + 1) := by
  have chars := isNameChar_of_isName h
  have lower : (Text.lowercase name).toList.length = name.toList.length := by
    rw [Text.lowercase, String.toList_ofList,
      Text.lowerFrom_eq_map fun c hc => (isNameChar_toLower (chars c hc)).1, List.length_map]
  have mark : "_".toList.length = 1 := rfl
  simp only [boundName, String.toList_append, List.length_append]
  omega

/-- Bound to a key a text gets longer by the key and an underscore for each of its placeholders. -/
theorem length_renamedChars (key : String) (cs : List Char) :
    (renamedChars (boundName key) cs).length
      = cs.length + ((pieces cs).filterMap Piece.placeholder?).length * (key.toList.length + 1) := by
  -- piece by piece; only placeholders get longer
  induction cs using pieces.induct with
  | case1 cs p rest hit ih =>
    obtain ⟨hp, rfl⟩ := placeholderAt?_eq_some_iff.mp hit
    rw [renamedChars_placeholder _ hp, pieces_placeholder hp, List.length_append, ih,
      Placeholder.toList_text, Placeholder.toList_text]
    have longer := length_boundName key hp.name
    simp only [Placeholder.renamed, List.filterMap_cons, Piece.placeholder?, List.length_append,
      List.length_cons, List.length_nil, Nat.succ_mul]
    omega
  | case2 hit =>
    rw [renamedChars_nil, pieces_nil]
    simp
  | case3 c rest hit ih =>
    rw [renamedChars_other _ hit, pieces_other hit, List.length_cons, ih]
    simp only [List.filterMap_cons, Piece.placeholder?, List.length_cons]
    omega

/-- Of all texts only those without a placeholder stay as they are. -/
theorem Template.bindTo_eq_self_iff (text key : String) :
    Template.bindTo ⟨text⟩ key = text ↔ placeholdersIn text = [] := by
  constructor
  · -- a text that stays keeps its length, so it has no placeholder to make it longer
    intro same
    have chars := congrArg (List.length ∘ String.toList) same
    simp only [Function.comp_apply, Template.bindTo, Template.toList_rename] at chars
    rw [length_renamedChars] at chars
    have none : (placeholdersIn text).length * (key.toList.length + 1) = 0 := by
      rw [placeholdersIn]
      omega
    rcases Nat.mul_eq_zero.mp none with none | none
    · exact List.length_eq_zero_iff.mp none
    · omega
  · intro bare
    have := Template.rename_front (boundName key) (t := "") bare rfl
    rwa [String.append_empty, Template.rename_empty, String.append_empty] at this

/-! ## Templates -/

namespace Template

/-- Bound to a key, the text keeps what is quoted in it: each span stands as it is between what is bound
    in front of it and what is bound behind it. -/
def KeepsQuoted (t : Template) (key : String) : Prop :=
  ∀ before span behind, SpanOf t.text before span behind →
    t.bindTo key = bindTo ⟨before⟩ key ++ span ++ bindTo ⟨behind⟩ key

/-- A template has the names that its text refers to, and those of its quoted placeholders. -/
theorem mem_names_iff (t : Template) (name : String) :
    name ∈ t.names ↔
      name ∈ placeholderNames t.text ∨ ∃ p, QuotedIn p t.text ∧ p.name = name := by
  rw [names, List.mem_map, mem_placeholderNames, List.mem_map]
  constructor
  · rintro ⟨p, hp, rfl⟩
    obtain ⟨formed, a, b, split⟩ := mem_pieces.mp (mem_placeholdersIn.mp hp)
    by_cases front : Unspanned a
    · exact .inl ⟨p, mem_references.mpr ⟨formed, a, b, split, front⟩, rfl⟩
    · exact .inr ⟨p, ⟨formed, a, b, split, front⟩, rfl⟩
  · rintro (⟨p, hp, rfl⟩ | ⟨p, ⟨formed, a, b, split, _⟩, rfl⟩)
    · obtain ⟨formed, a, b, split, _⟩ := mem_references.mp hp
      exact ⟨p, mem_placeholdersIn.mpr (mem_pieces.mpr ⟨formed, a, b, split⟩), rfl⟩
    · exact ⟨p, mem_placeholdersIn.mpr (mem_pieces.mpr ⟨formed, a, b, split⟩), rfl⟩

/-- What is quoted in a template is kept under a key exactly if no placeholder is quoted in it. -/
theorem keepsQuoted_iff (t : Template) (key : String) :
    t.KeepsQuoted key ↔ ∀ p, ¬ QuotedIn p t.text := by
  have kept {before span behind : String} (h : SpanOf t.text before span behind) :
      t.bindTo key = bindTo ⟨before⟩ key ++ span ++ bindTo ⟨behind⟩ key ↔ placeholdersIn span = [] := by
    rw [show t.bindTo key = _ from h.bindTo_eq key, ← bindTo_eq_self_iff span key]
    constructor
    · intro same
      have chars := congrArg String.toList same
      simp only [String.toList_append, List.append_assoc, List.append_cancel_left_eq,
        List.append_cancel_right_eq] at chars
      exact String.toList_inj.mp chars
    · intro same
      rw [same]
  constructor
  · intro keeps p quoted
    obtain ⟨before, span, behind, whole, inside⟩ := exists_spanOf quoted
    have bare := (kept whole).mp (keeps before span behind whole)
    have found := mem_placeholdersIn.mpr inside
    rw [bare] at found
    cases found
  · intro none before span behind whole
    refine (kept whole).mpr (List.eq_nil_iff_forall_not_mem.mpr fun p hp => ?_)
    exact none p (whole.quotedIn (mem_placeholdersIn.mp hp))

/-- The two scans have the same names exactly if each quoted placeholder has the name of one outside
    quotes, and a template survives being bound exactly if it has no quoted placeholder. -/
theorem quotes_kept_iff (t : Template) :
    (∀ name, name ∈ t.names ↔
      name ∈ placeholderNames t.text ∨ ∃ p, QuotedIn p t.text ∧ p.name = name) ∧
    (nameSet t.names = placeholderNames t.text ↔
      ∀ p, QuotedIn p t.text → p.name ∈ placeholderNames t.text) ∧
    ∀ key, t.KeepsQuoted key ↔ ∀ p, ¬ QuotedIn p t.text := by
  refine ⟨t.mem_names_iff, ?_, t.keepsQuoted_iff⟩
  constructor
  · intro same p quoted
    rw [← same, mem_nameSet]
    exact (t.mem_names_iff p.name).mpr (.inr ⟨p, quoted, rfl⟩)
  · intro named
    refine @eq_of_ascending _ id _ _ (pairwise_nameSet _) (pairwise_nameSet _) fun name => ?_
    show name ∈ nameSet t.names ↔ name ∈ placeholderNames t.text
    rw [mem_nameSet, t.mem_names_iff]
    constructor
    · rintro (refers | ⟨p, quoted, rfl⟩)
      · exact refers
      · exact named p quoted
    · exact .inl

/-- A literal that is spelled like a placeholder. -/
def quotedPlaceholder : Template := ⟨"'\x7bA:String\x7d'"⟩

/-- The literal is no reference, and all the same it is a name of the template and is renamed. -/
theorem quotes_not_kept :
    quotedPlaceholder.names = ["A"] ∧ placeholderNames quotedPlaceholder.text = [] ∧
    nameSet quotedPlaceholder.names ≠ placeholderNames quotedPlaceholder.text ∧
    quotedPlaceholder.bindTo "k" = "'\x7bk_a:String\x7d'" ∧ ¬ quotedPlaceholder.KeepsQuoted "k" := by
  have quoted : QuotedIn ⟨"A", "String"⟩ quotedPlaceholder.text := by
    refine ⟨⟨by decide, List.all_eq_true.mp (by decide), by decide⟩, [singleQuote], [singleQuote], by decide, ?_⟩
    rw [unspanned_iff]
    decide
  refine ⟨by decide +kernel, by decide +kernel, by decide +kernel, by decide +kernel, ?_⟩
  intro keeps
  exact (quotedPlaceholder.keepsQuoted_iff "k").mp keeps _ quoted

end Template

end TraceQuery.Sql
