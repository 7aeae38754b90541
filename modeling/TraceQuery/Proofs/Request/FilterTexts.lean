/-
  Filters in a text of their own.

  A text encodes a list of filters (`EncodesFilters`) if it is an array with a filter in each place, in any
  of the ways JSON has to write it: objects with the members in any order and unknown ones among them, or
  arrays of the three parts; blanks, escapes and number forms as the grammar allows.

  1. **One filter** (`FilterRow.exists_node`): each part is read as what it encodes.  A string stays a
     string, whatever it looks like, and a number is the double nearest to it.
  2. **A list** (`EncodesFilters.read`): what is read of the text is the list that it encodes, in its order.
  3. **Encodings exist** (`exists_encodesFilters`): every list whose numbers are finite is encoded by some
     text.  A number that is not finite has no JSON form, so it is left out.
  4. **Bounds** (`parseFilters_encoded`): the text is refused if it is too long, before anything of it is
     read, and the list if there are too many filters, after it was read.

  The rows (`FilterRow`, `MemberRow` and so on) are written against the grammar of `Json.Grammar` and say
  nothing of the reader.  The reader comes in with `exists_node`: a row is spelled by the tokens of a node,
  and this node is read as the filter.

-/
import Mathlib.Data.String.Basic
import TraceQuery.Proofs.Decimal.Exact
import TraceQuery.Proofs.Json.Grammar
import TraceQuery.Proofs.Request.Rearranged

namespace TraceQuery

open TraceQuery.Decimal (Finite)
open TraceQuery.Json

/-! ## Encodings -/

/-- The rows of a string. -/
inductive StringRow (s : String) : Lexemes → Prop where
  | intro {w : List Char} : StringText s w → StringRow s [w]

/-- The rows of the value of a filter: a string, or a number with that double nearest to it. -/
inductive FilterValueRow : FilterValue → Lexemes → Prop where
  | text {s : String} {row : Lexemes} : StringRow s row → FilterValueRow (.text s) row
  | number (t : NumberText) {x : Finite} : t.value.toDouble = .finite x →
    FilterValueRow (.number (.finite x)) [t.chars]

/-- The rows of a member of an object. -/
inductive MemberRow (key : String) (value : Lexemes → Prop) : Lexemes → Prop where
  | intro {w : List Char} {row : Lexemes} : StringText key w → value row →
    MemberRow key value (w :: [':'] :: row)

/-- The rows of a filter. -/
inductive FilterRow (f : Filter) : Lexemes → Prop where
  | object {column operator value : Lexemes} {others members : List Lexemes} :
    MemberRow "column" (StringRow f.column) column →
    MemberRow "operator" (StringRow f.operator.name) operator →
    MemberRow "value" (FilterValueRow f.value) value →
    (∀ row ∈ others, ∃ key, key ∉ filterKeys ∧ MemberRow key ValueRow row) →
    (column :: operator :: value :: others).Perm members →
    FilterRow f (enclosed '\x7b' members '\x7d')
  | array {column operator value : Lexemes} :
    StringRow f.column column → StringRow f.operator.name operator → FilterValueRow f.value value →
    FilterRow f (enclosed '[' [column, operator, value] ']')

/-- A text encodes a list of filters. -/
def EncodesFilters (fs : List Filter) (text : String) : Prop :=
  ∃ rows, List.Forall₂ FilterRow fs rows ∧ Spread (enclosed '[' rows ']') text.toList

/-! ## One filter -/

section Rows

variable {f : Filter} {s : String} {v : FilterValue} {key : String} {row : Lexemes}

theorem StringRow.spells (h : StringRow s row) : Spells [.scalar (.string s)] row := by
  obtain ⟨text⟩ := h
  exact .cons text.lexeme .nil

/-- The value of a filter is a scalar, which is read as the value. -/
theorem FilterValueRow.exists_scalar (h : FilterValueRow v row) :
    ∃ s : Scalar, (∀ origin, FilterValue.ofNode origin (.scalar s) = .ok v) ∧ Spells [.scalar s] row := by
  cases h with
  | @text s _ string => exact ⟨.string s, fun origin => FilterValue.ofNode_string origin s, string.spells⟩
  | number t nearest =>
    obtain ⟨n, token, double⟩ := t.toDouble_token nearest
    have lexeme := t.lexeme
    rw [token] at lexeme
    refine ⟨.number n, fun origin => ?_, .cons lexeme .nil⟩
    show ((Node.scalar _).whole origin).bind _ = _
    rw [Node.whole_scalar, ← double]
    rfl

/-- A member is read as its key and what its value is read as. -/
theorem MemberRow.exists_member {value : Lexemes → Prop} {P : Node → Prop} (h : MemberRow key value row)
    (reads : ∀ row, value row → ∃ n, P n ∧ Spells n.tokens row) :
    ∃ n, P n ∧ SpellsMember (.scalar (.string key), n) row := by
  obtain ⟨named, held⟩ := h
  obtain ⟨n, known, spells⟩ := reads _ held
  exact ⟨n, known, .cons named.lexeme (.cons (lexeme_sign (by decide)) spells)⟩

/-- A member with a string is read as its key and the string. -/
theorem MemberRow.exists_string (h : MemberRow key (StringRow s) row) :
    SpellsMember (.scalar (.string key), .scalar (.string s)) row := by
  obtain ⟨_, rfl, spells⟩ := h.exists_member (P := (· = .scalar (.string s)))
    fun row string => ⟨_, rfl, string.spells⟩
  exact spells

/-- Members beside those of a filter are read as members with keys that it does not know. -/
theorem exists_others {others : List Lexemes}
    (h : ∀ row ∈ others, ∃ key, key ∉ filterKeys ∧ MemberRow key ValueRow row) :
    ∃ more : List (Node × Node),
      (∀ m ∈ more, ∃ key, m.1 = .scalar (.string key) ∧ key ∉ filterKeys ∧ m.2.isComplete = true) ∧
        List.Forall₂ SpellsMember more others := by
  -- each row gives its own member; they are put together at the end
  have each : ∀ row ∈ others, ∃ m : Node × Node,
      (∃ key, m.1 = .scalar (.string key) ∧ key ∉ filterKeys ∧ m.2.isComplete = true) ∧
        SpellsMember m row := by
    intro row mem
    obtain ⟨key, unknown, member⟩ := h row mem
    obtain ⟨n, complete, spells⟩ := member.exists_member fun _ value => value.exists_node
    exact ⟨(_, n), ⟨key, rfl, unknown, complete⟩, spells⟩
  obtain ⟨more, spelled⟩ := exists_forall₂ each
  exact ⟨more, (List.forall₂_and_left _ _).mp spelled⟩

/-- What encodes a filter is read as this filter. -/
theorem FilterRow.exists_node (h : FilterRow f row) (origin : Origin) :
    ∃ n : Node, Filter.ofNode origin n = .ok f ∧ Spells n.tokens row := by
  cases h with
  | @object column operator value others members hcolumn hoperator hvalue hothers perm =>
    obtain ⟨_, ⟨s, rfl, reads⟩, value⟩ := hvalue.exists_member
      (P := fun n => ∃ s, n = .scalar s ∧ ∀ origin, FilterValue.ofNode origin n = .ok f.value)
      fun row held => by
        obtain ⟨s, reads, spells⟩ := held.exists_scalar
        exact ⟨.scalar s, ⟨s, rfl, reads⟩, spells⟩
    obtain ⟨more, extras, spells⟩ := exists_others hothers
    have all := List.Forall₂.cons hcolumn.exists_string
      (.cons hoperator.exists_string (.cons value spells))
    obtain ⟨nodes, spelled, perm⟩ := List.perm_comp_forall₂ perm.symm all.flip
    -- the filter in its plain order; the object at hand has its members in another one, and more of them
    let plain : Node := .ofValue (Filter.Shape.object.write f.column f.operator (.scalar s))
    have read : Filter.ofNode origin plain = .ok f :=
      Filter.Shape.ofNode_write (reads origin.inside) .object f.column f.operator
    have same : SameFilter plain (.object nodes true) := .object ⟨more, extras, perm.symm⟩
    exact ⟨.object nodes true, same.ofNode read, spells_object spelled.flip⟩
  | @array column operator value hcolumn hoperator hvalue =>
    obtain ⟨s, reads, spells⟩ := hvalue.exists_scalar
    refine ⟨Node.ofValue (Filter.Shape.array.write f.column f.operator (.scalar s)),
      Filter.Shape.ofNode_write (reads origin.inside) .array f.column f.operator, ?_⟩
    exact spells_array (.cons hcolumn.spells (.cons hoperator.spells (.cons spells .nil)))

end Rows

/-! ## A list -/

/-- A text that encodes a list of filters is read as this list. -/
theorem EncodesFilters.read {fs : List Filter} {text : String} (h : EncodesFilters fs text) :
    (Document.ofText text).read (readFilters (.text 0)) = .ok fs := by
  obtain ⟨rows, filters, spread⟩ := h
  obtain ⟨items, read, spells⟩ : ∃ items,
      Node.readItems (Filter.ofNode (.text 1)) true items = .ok fs ∧
        List.Forall₂ (fun n row => Spells n.tokens row) items rows := by
    clear spread
    -- item by item, along the filters and their rows
    induction filters with
    | nil => exact ⟨[], rfl, .nil⟩
    | cons filter _ ih =>
      obtain ⟨n, first, spells⟩ := filter.exists_node (.text 1)
      obtain ⟨items, rest, spells'⟩ := ih
      exact ⟨n :: items, readItems_cons.mpr ⟨_, _, first, rest, rfl⟩, .cons spells spells'⟩
  have written : Written (.array items true) text := spaced_of_spread (spells_array spells) spread
  rw [ofText_of_written written]
  show (Node.readItems (Filter.ofNode (.text 1)) true items).bind _ = _
  rw [read]
  rfl

/-- A value has a row unless it is a number that is not finite: a double is written as its exact decimal. -/
theorem exists_filterValueRow (v : FilterValue) (finite : ∀ d, v = .number d → d.isFinite = true) :
    ∃ row, FilterValueRow v row := by
  cases v with
  | text s =>
    obtain ⟨w, text⟩ := exists_stringText s
    exact ⟨[w], .text (.intro text)⟩
  | number d =>
    cases d with
    | finite x =>
      obtain ⟨t, value⟩ := NumberText.exists_numberText x.decimal
      exact ⟨[t.chars], .number t (by rw [value, x.toDouble_decimal])⟩
    | _ => cases finite _ rfl

/-- Every list of filters with finite numbers is encoded by some text. -/
theorem exists_encodesFilters (fs : List Filter)
    (finite : ∀ f ∈ fs, ∀ d, f.value = .number d → d.isFinite = true) :
    ∃ text, EncodesFilters fs text := by
  have each : ∀ f ∈ fs, ∃ row, FilterRow f row := by
    intro f hf
    obtain ⟨column, named⟩ := exists_stringText f.column
    obtain ⟨operator, known⟩ := exists_stringText f.operator.name
    obtain ⟨value, held⟩ := exists_filterValueRow f.value (finite f hf)
    exact ⟨_, .array (.intro named) (.intro known) held⟩
  obtain ⟨rows, filters⟩ := exists_forall₂ each
  refine ⟨String.ofList (enclosed '[' rows ']').flatten, rows, filters.flip, ?_⟩
  rw [String.toList_ofList]
  exact spread_flatten _

/-- A text with two filters: an object with escapes, blanks and a member that is not known, and an array. -/
def twoFiltersText : String :=
  "[\x7b\"note\":[null],\"v\\u0061lue\" : \"42\",\"operator\":\"not_contains\"," ++
    "\"column\":\"\\u00e9\\uD83D\\ude00\"\x7d,\n[\"n\",\"gte\",-4.25e1]]"

/-- The two filters; the double is -42.5. -/
def twoFilters : List Filter :=
  [⟨"é😀", .notContains, .text "42"⟩,
    ⟨"n", .gte, .number (.finite ⟨true, 5981343255101440, 1027, by decide⟩)⟩]

set_option maxRecDepth 4000 in
/-- The text encodes the two filters. -/
theorem encodes_twoFilters : EncodesFilters twoFilters twoFiltersText := by
  have letter {c : Char} (plain : isPlain c = true) : CharText c [c] := .piece (.plain plain)
  have unit {n : Nat} {a b c d : Char} (digits : HexDigit (n / 4096) a ∧ HexDigit (n / 256 % 16) b ∧
      HexDigit (n / 16 % 16) c ∧ HexDigit (n % 16) d) : PieceText (.unit n) ['\\', 'u', a, b, c, d] :=
    .unit (.intro digits.1 digits.2.1 digits.2.2.1 digits.2.2.2)
  -- the key of the value, with its second letter escaped
  have value : StringText "value"
      (quotation [['v'], ['\\', 'u', '0', '0', '6', '1'], ['l'], ['u'], ['e']]) :=
    ⟨_, .cons (letter (by decide)) (.cons (.unit (by decide) (unit (by decide)))
      (.cons (letter (by decide)) (.cons (letter (by decide)) (.cons (letter (by decide)) .nil)))), rfl⟩
  -- the column, with an escape for the first character and a pair of them for the second
  have column : StringText "é😀"
      (quotation [['\\', 'u', '0', '0', 'e', '9'],
        ['\\', 'u', 'D', '8', '3', 'D', '\\', 'u', 'd', 'e', '0', '0']]) :=
    ⟨_, .cons (.unit (by decide) (unit (by decide)))
      (.cons (.pair (by decide) (unit (by decide)) (unit (by decide))) .nil), rfl⟩
  let number : NumberText :=
    { whole := ⟨.minus, ['4'], by decide, List.all_eq_true.mp rfl⟩
      fraction := ['2', '5']
      exponent := some ('e', ⟨.unsigned, ['1'], by decide, List.all_eq_true.mp rfl⟩)
      noPlus := by decide
      noLeadingZero := by decide
      decimal := List.all_eq_true.mp rfl
      letter := by decide }
  have note : ValueRow (enclosed '[' [[['n', 'u', 'l', 'l']]] ']') :=
    .array (List.forall_mem_singleton.mpr (.word (by decide)))
  have first : FilterRow ⟨"é😀", .notContains, .text "42"⟩ _ :=
    .object (.intro (.plain (by decide)) (.intro column))
      (.intro (.plain (by decide)) (.intro (.plain (by decide))))
      (.intro value (.text (.intro (.plain (by decide)))))
      (List.forall_mem_singleton.mpr ⟨"note", by decide, .intro (.plain (by decide)) note⟩)
      (List.reverse_perm _).symm
  have second : FilterRow ⟨"n", .gte, .number (.finite ⟨true, 5981343255101440, 1027, by decide⟩)⟩ _ :=
    .array (.intro (.plain (by decide))) (.intro (.plain (by decide))) (.number number (by decide +kernel))
  -- what is left is that the text is the rows, with blanks between them
  refine ⟨_, .cons first (.cons second .nil), ?_⟩
  repeat first | refine .lexeme ?_ | refine .blank (by decide) ?_
  exact .nil

/-! ## Bounds -/

/-- A character `n` times takes `n` times its bytes. -/
theorem utf8ByteSize_replicate (n : Nat) (c : Char) :
    (String.ofList (List.replicate n c)).utf8ByteSize = n * c.utf8Size := by
  rw [String.utf8ByteSize_ofList]
  induction n with
  | zero => simp
  | succ n ih => rw [List.replicate_succ, String.utf8Len_cons, ih, Nat.succ_mul]

/-- A text over the bound is refused for its length, whatever the number of filters may be. -/
theorem parseFilters_of_long {text : String} (long : maxFilterBytes < text.utf8ByteSize) (max : Nat) :
    parseFilters text max =
      .error (.invalidFilterJson "Filter JSON exceeds maximum size of 65536 bytes") := if_pos long

/-- A text within the bound is read, and the number of filters is looked at then. -/
theorem parseFilters_of_read {fs : List Filter} {text : String} {max : Nat}
    (short : text.utf8ByteSize ≤ maxFilterBytes)
    (read : (Document.ofText text).read (readFilters (.text 0)) = .ok fs) :
    parseFilters text max =
      if max < fs.length then .error (.tooManyFilters max fs.length) else .ok fs := by
  rw [parseFilters, if_neg (Nat.not_lt.mpr short), read]
  show (checkFilterCount max fs).bind _ = _
  rw [checkFilterCount]
  split <;> rfl

/-- What is parsed has its filters, and is within both bounds. -/
theorem parseFilters_eq_ok_iff {fs : List Filter} {text : String}
    (read : (Document.ofText text).read (readFilters (.text 0)) = .ok fs) (max : Nat) :
    parseFilters text max = .ok fs ↔ text.utf8ByteSize ≤ 65536 ∧ fs.length ≤ max := by
  constructor
  · intro parsed
    -- a text over the bound would have been refused
    have short : text.utf8ByteSize ≤ 65536 := by
      by_contra long
      rw [parseFilters_of_long (Nat.not_le.mp long)] at parsed
      cases parsed
    refine ⟨short, ?_⟩
    rw [parseFilters_of_read short read] at parsed
    split at parsed
    · cases parsed
    · omega
  · rintro ⟨short, few⟩
    rw [parseFilters_of_read short read, if_neg (Nat.not_lt.mpr few)]

/-- **A text is parsed as the filters that it encodes**, in their order, if it has at most 65536 bytes and
    they are at most `max`.  A longer text is invalid, whatever is in it; in a text that is not too long,
    more filters are too many.  Every list with finite numbers has such a text. -/
theorem parseFilters_encoded :
    (∀ text max, 65536 < text.utf8ByteSize → parseFilters text max =
      .error (.invalidFilterJson "Filter JSON exceeds maximum size of 65536 bytes")) ∧
    (∀ fs : List Filter, (∀ f ∈ fs, ∀ d, f.value = .number d → d.isFinite = true) →
      ∃ text, EncodesFilters fs text) ∧
    ∀ fs text, EncodesFilters fs text → ∀ max,
      (parseFilters text max = .ok fs ↔ text.utf8ByteSize ≤ 65536 ∧ fs.length ≤ max) ∧
      (text.utf8ByteSize ≤ 65536 → max < fs.length →
        parseFilters text max = .error (.tooManyFilters max fs.length)) := by
  refine ⟨fun text max long => parseFilters_of_long long max, exists_encodesFilters,
    fun fs text encodes max => ⟨parseFilters_eq_ok_iff encodes.read max, ?_⟩⟩
  intro short many
  rw [parseFilters_of_read short encodes.read, if_pos many]

/-- A text of 32769 characters is too long if each takes two bytes. -/
theorem parseFilters_encoded_two :
    parseFilters (String.ofList (List.replicate 32769 'é')) 2 =
      .error (.invalidFilterJson "Filter JSON exceeds maximum size of 65536 bytes") ∧
    (∃ text, EncodesFilters twoFilters text) ∧
    parseFilters twoFiltersText 2 = .ok twoFilters ∧
    parseFilters twoFiltersText 1 = .error (.tooManyFilters 1 2) := by
  have short : twoFiltersText.utf8ByteSize ≤ 65536 := by decide +kernel
  obtain ⟨refused, encoded, parsed⟩ := parseFilters_encoded
  refine ⟨refused _ 2 ?_, encoded twoFilters ?_, ?_, ?_⟩
  · rw [utf8ByteSize_replicate]
    decide
  · simp [twoFilters, Decimal.Double.isFinite]
  · exact (parsed twoFilters _ encodes_twoFilters 2).1.mpr ⟨short, by decide⟩
  · exact (parsed twoFilters _ encodes_twoFilters 1).2 short (by decide)

end TraceQuery
