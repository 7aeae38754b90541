/-
  The texts that are written, and what is read from them.

  1. **Scalars** (`lexeme_scalar`): the text of a scalar is a lexeme of the grammar and is read as the scalar.
     Characters are escaped one by one, an integer that fits 64 bits has neither point nor exponent, and a
     double has one of them.
  2. **Values** (`written_compact`, `written_pretty`): both texts are written for the node of the value.  They
     differ in the blanks between the tokens, and in nothing else (`tokens_of_written`).
  3. **One value** (`eq_of_written`): a text is written for one value at most.
-/
import TraceQuery.Proofs.Json.Numbers

namespace TraceQuery.Json

open TraceQuery.Decimal (Finite)
open TraceQuery.Text (Numeral maxInteger maxCount)

/-! ## Strings -/

/-- What a character is written with stands for it. -/
theorem charText_escapedChar (c : Char) : CharText c (escapedChar c) := by
  unfold escapedChar
  cases found : shortEscapes.find? fun e => e.2 == c with
  | some e =>
    obtain ⟨letter, other⟩ := e
    have same : other = c := by simpa using List.find?_some found
    have known : (letter, c) ∈ shortEscapes := same ▸ List.mem_of_find?_eq_some found
    exact .piece (.short (List.mem_cons_of_mem _ known))
  | none =>
    have unlike : ∀ e ∈ shortEscapes, e.2 ≠ c := by simpa using found
    simp only
    split
    · -- a control has a code below 32, so two of its four digits are zero
      rename_i control
      have none : c.toNat / 4096 = 0 := by omega
      have none' : c.toNat / 256 % 16 = 0 := by omega
      have low : c.toNat / 16 % 16 = c.toNat / 16 := by omega
      refine .unit (by omega) (.unit (.intro ?_ ?_ ?_ ?_))
      · exact ⟨by omega, .inl (by rw [none]; rfl)⟩
      · exact ⟨by omega, .inl (by rw [none']; rfl)⟩
      · exact ⟨by omega, .inl (by rw [low])⟩
      · exact ⟨by omega, .inl rfl⟩
    · -- neither a quote nor a backslash, as both have a short escape
      rename_i visible
      have quote : c ≠ '\x22' := (unlike ('\x22', '\x22') (by decide)).symm
      have slash : c ≠ '\\' := (unlike ('\\', '\\') (by decide)).symm
      refine .piece (.plain ?_)
      simp only [isPlain, Bool.and_eq_true, bne_iff_ne, decide_eq_true_eq]
      exact ⟨⟨quote, slash⟩, by omega⟩

/-- The text of a string is one of its texts. -/
theorem stringText_writeString (s : String) : StringText s (writeString s).toList := by
  refine ⟨s.toList.map escapedChar, ?_, ?_⟩
  · exact List.forall₂_map_right_iff.mpr (List.forall₂_same.mpr fun c _ => charText_escapedChar c)
  · rw [writeString, String.toList_ofList, quotation, List.flatMap_def]
    rfl

/-! ## Integers -/

/-- The integers of 64 bits, with or without a sign. -/
def Number.fits : Number → Bool
  | integer n => -Int.ofNat (maxInteger + 1) ≤ n ∧ n ≤ Int.ofNat maxCount
  | float _ => true

section Integers

variable {n : Int}

/-- The numeral of an integer has its sign. -/
theorem isNegative_ofInt : (Numeral.ofInt n).sign.isNegative = decide (n < 0) := by
  simp only [Numeral.ofInt]
  by_cases below : n < 0
  · rw [if_pos below, decide_eq_true below]
    rfl
  · rw [if_neg below, decide_eq_false below]
    rfl

/-- The text of an integer as a number of the grammar, without point and exponent. -/
def NumberText.ofInt (n : Int) : NumberText where
  whole := .ofInt n
  fraction := []
  exponent := none
  noPlus := by
    show (if n < 0 then Text.Sign.minus else .unsigned) ≠ .plus
    split <;> simp
  noLeadingZero zero := by
    show Nat.toDigits 10 n.natAbs = ['0']
    rcases Nat.eq_zero_or_pos n.natAbs with none | some
    · rw [none]
      rfl
    · exact absurd zero (Text.head?_toDigits some)
  decimal := by simp
  letter := by simp

theorem NumberText.chars_ofInt (n : Int) : (ofInt n).chars = (Text.writeInt n).toList := by
  show (Numeral.ofInt n).sign.chars ++ ((Numeral.ofInt n).digits ++ ([] ++ [])) = _
  rw [List.append_nil, List.append_nil, ← Numeral.text_ofInt, Numeral.text, String.toList_ofList]

/-- The numeral of an integer that fits is read as that integer. -/
theorem NumberText.token_ofInt (fits : (Number.integer n).fits = true) :
    (ofInt n).token = .scalar (.number (.integer n)) := by
  have read : Text.digitsValue 0 (Numeral.ofInt n).digits = n.natAbs := Text.digitsValue_toDigits _
  simp only [Number.fits, decide_eq_true_eq, Int.ofNat_eq_natCast] at fits
  show numberToken (Numeral.ofInt n).sign.isNegative (Numeral.ofInt n).digits [] none = _
  have bare : (([] : List Char).isEmpty && (none : Option Int).isNone) = true := rfl
  simp only [numberToken, read, isNegative_ofInt, if_pos bare]
  -- the bounds differ by the sign, as in the reader
  by_cases below : n < 0
  · have range : 0 < n.natAbs ∧ n.natAbs ≤ maxInteger + 1 := by omega
    have same : -Int.ofNat n.natAbs = n := by
      rw [Int.ofNat_eq_natCast]
      omega
    rw [decide_eq_true below, if_pos rfl, if_pos range, same]
  · have range : n.natAbs ≤ maxCount := by omega
    have same : Int.ofNat n.natAbs = n := by
      rw [Int.ofNat_eq_natCast]
      omega
    rw [decide_eq_false below, if_neg Bool.false_ne_true, if_pos range, same]

end Integers

/-! ## Scalars -/

/-- Every scalar can be read back but an integer beyond 64 bits. -/
def Scalar.fits : Scalar → Bool
  | number n => n.fits
  | _ => true

/-- The text of a scalar is one lexeme, which is read as the scalar. -/
theorem lexeme_scalar {s : Scalar} (fits : s.fits = true) : Lexeme (.scalar s) s.text.toList := by
  cases s with
  | null => exact ⟨_, _, rfl, rfl⟩
  | bool b => cases b <;> exact ⟨_, _, rfl, rfl⟩
  | string s => exact (stringText_writeString s).lexeme
  | number n =>
    cases n with
    | integer n =>
      have lexeme := (NumberText.ofInt n).lexeme
      rw [NumberText.chars_ofInt, NumberText.token_ofInt fits] at lexeme
      exact lexeme
    | float x =>
      obtain ⟨t, token, chars⟩ := exists_numberText_float x
      exact token ▸ chars ▸ t.lexeme

/-! ## Blanks -/

section Blanks

variable {ts us : List Token} {cs ds : List Char}

/-- Spellings may be put one behind another. -/
theorem Spaced.append (h : Spaced ts cs) (h' : Spaced us ds) : Spaced (ts ++ us) (cs ++ ds) := by
  induction h with
  | nil => exact h'
  | blank blank _ ih => exact .blank blank ih
  | token lexeme _ ih =>
    rw [List.append_assoc]
    exact .token lexeme ih

theorem spaced_blanks (h : ∀ c ∈ cs, isJsonBlank c = true) : Spaced [] cs := by
  induction cs with
  | nil => exact .nil
  | cons c cs ih => exact .blank (h c List.mem_cons_self) (ih fun d hd => h d (List.mem_cons_of_mem c hd))

/-- A line break and its indentation are blanks. -/
theorem spaced_newLine (depth : Nat) : Spaced [] (newLine depth).toList := by
  rw [newLine, String.toList_ofList]
  refine spaced_blanks fun c hc => ?_
  rcases List.mem_cons.mp hc with rfl | hc
  · decide
  · rw [(List.mem_replicate.mp hc).2]
    decide

theorem spaced_sign {c : Char} {t : Token} (h : (c, t) ∈ signs) : Spaced [t] [c] :=
  .token (lexeme_sign h) .nil

/-- A container between its two signs. -/
theorem Spaced.enclosed {o c : Char} {t u : Token} (opens : (o, t) ∈ signs) (closes : (c, u) ∈ signs)
    (h : Spaced ts cs) : Spaced (t :: (ts ++ [u])) ([o] ++ cs ++ [c]) := by
  rw [List.append_assoc]
  exact (spaced_sign opens).append (h.append (spaced_sign closes))

/-- A container whose closing sign is on a line of its own. -/
theorem Spaced.enclosedLines {o c : Char} {t u : Token} (opens : (o, t) ∈ signs) (closes : (c, u) ∈ signs)
    (h : Spaced ts cs) (depth : Nat) :
    Spaced (t :: (ts ++ [u])) ([o] ++ cs ++ (newLine depth).toList ++ [c]) := by
  have inside := h.append (spaced_newLine depth)
  rw [List.append_nil] at inside
  rw [List.append_assoc [o]]
  exact .enclosed opens closes inside

/-- One item or member after another. -/
theorem Spaced.comma (h : Spaced ts cs) (h' : Spaced us ds) :
    Spaced (ts ++ .comma :: us) (cs ++ [','] ++ ds) := by
  rw [List.append_assoc]
  exact h.append ((spaced_sign (by decide)).append h')

/-- A member: its key, a colon, blanks and its value. -/
theorem Spaced.member (h : Spaced ts cs) (key : String) (blanks : Spaced [] ds) :
    Spaced (.scalar (.string key) :: .colon :: ts) ((writeString key).toList ++ ':' :: ds ++ cs) := by
  have name : Spaced [.scalar (.string key)] (writeString key).toList := by
    rw [← List.append_nil (writeString key).toList]
    exact .token (stringText_writeString key).lexeme .nil
  rw [List.append_assoc]
  exact name.append ((spaced_sign (by decide)).append (blanks.append h))

/-- A member on a line of its own. -/
theorem Spaced.memberLine {text : String} (h : Spaced ts text.toList) (key : String) (depth : Nat) :
    Spaced (.scalar (.string key) :: .colon :: ts)
      (newLine depth ++ writeString key ++ ": " ++ text).toList := by
  have space : Spaced [] [' '] := .blank rfl .nil
  have member := h.member key space
  rw [String.toList_append, String.toList_append, String.toList_append, List.append_assoc, List.append_assoc]
  rw [List.append_assoc] at member
  exact (spaced_newLine depth).append member

end Blanks

/-! ## Values -/

mutual

/-- Every integer of a value fits 64 bits. -/
def Value.fits : Value → Bool
  | .scalar s => s.fits
  | .array items => itemsFit items
  | .object members => membersFit members

/-- Every integer of some items fits. -/
def itemsFit : List Value → Bool
  | [] => true
  | v :: rest => v.fits && itemsFit rest

/-- Every integer of some members fits. -/
def membersFit : List (String × Value) → Bool
  | [] => true
  | (_, v) :: rest => v.fits && membersFit rest

end

theorem itemsFit_iff {items : List Value} : itemsFit items = true ↔ ∀ v ∈ items, v.fits = true := by
  induction items with
  | nil => simp [itemsFit]
  | cons v items ih => simp [itemsFit, ih]

theorem membersFit_iff {members : List (String × Value)} :
    membersFit members = true ↔ ∀ m ∈ members, m.2.fits = true := by
  induction members with
  | nil => simp [membersFit]
  | cons m members ih => simp [membersFit, ih]

mutual

/-- The compact text spells the tokens of the value. -/
theorem spaced_compact : (v : Value) → v.fits = true → Spaced (Node.ofValue v).tokens v.compact.toList
  | .scalar s, fits => by
    rw [Value.compact, ← List.append_nil s.text.toList]
    exact .token (lexeme_scalar fits) .nil
  | .array items, fits => by
    rw [Value.compact, String.toList_append, String.toList_append]
    exact .enclosed (by decide) (by decide) (spaced_compactItems items fits)
  | .object members, fits => by
    rw [Value.compact, String.toList_append, String.toList_append]
    exact .enclosed (by decide) (by decide) (spaced_compactMembers members fits)

/-- Items between commas, without blanks. -/
theorem spaced_compactItems : (items : List Value) → itemsFit items = true →
    Spaced (itemTokens (itemNodes items)) (compactItems items).toList
  | [], _ => .nil
  | [v], fits => by
    have value := spaced_compact v (Bool.and_eq_true_iff.mp fits).1
    show Spaced ((Node.ofValue v).tokens ++ []) v.compact.toList
    rwa [List.append_nil]
  | v :: w :: rest, fits => by
    obtain ⟨first, others⟩ := Bool.and_eq_true_iff.mp fits
    rw [compactItems, String.toList_append, String.toList_append]
    · exact (spaced_compact v first).comma (spaced_compactItems (w :: rest) others)
    · exact List.cons_ne_nil w rest

/-- Members between commas, without blanks. -/
theorem spaced_compactMembers : (members : List (String × Value)) → membersFit members = true →
    Spaced (memberTokens (memberNodes members)) (compactMembers members).toList
  | [], _ => .nil
  | [(k, v)], fits => by
    have value := spaced_compact v (Bool.and_eq_true_iff.mp fits).1
    rw [compactMembers, String.toList_append, String.toList_append]
    show Spaced (_ :: _ :: ((Node.ofValue v).tokens ++ [])) _
    rw [List.append_nil]
    exact value.member k .nil
  | (k, v) :: m :: rest, fits => by
    obtain ⟨first, others⟩ := Bool.and_eq_true_iff.mp fits
    rw [compactMembers, String.toList_append, String.toList_append, String.toList_append, String.toList_append]
    · exact ((spaced_compact v first).member k .nil).comma (spaced_compactMembers (m :: rest) others)
    · exact List.cons_ne_nil m rest

end

mutual

/-- The pretty text spells the same tokens, at any depth. -/
theorem spaced_pretty : (v : Value) → ∀ depth, v.fits = true →
    Spaced (Node.ofValue v).tokens (v.prettyAt depth).toList
  | .scalar s, depth, fits => by
    rw [Value.prettyAt, ← List.append_nil s.text.toList]
    exact .token (lexeme_scalar fits) .nil
  -- an empty container stays on one line
  | .array [], depth, _ => by
    rw [Value.prettyAt]
    exact .enclosed (o := '[') (c := ']') (by decide) (by decide) .nil
  | .array (v :: rest), depth, fits => by
    rw [Value.prettyAt, String.toList_append, String.toList_append, String.toList_append]
    exact .enclosedLines (by decide) (by decide) (spaced_prettyItems (v :: rest) (depth + 1) fits) depth
  | .object [], depth, _ => by
    rw [Value.prettyAt]
    exact .enclosed (o := '\x7b') (c := '\x7d') (by decide) (by decide) .nil
  | .object (m :: rest), depth, fits => by
    rw [Value.prettyAt, String.toList_append, String.toList_append, String.toList_append]
    exact .enclosedLines (by decide) (by decide) (spaced_prettyMembers (m :: rest) (depth + 1) fits) depth

/-- Items on lines of their own. -/
theorem spaced_prettyItems : (items : List Value) → ∀ depth, itemsFit items = true →
    Spaced (itemTokens (itemNodes items)) (prettyItems depth items).toList
  | [], _, _ => .nil
  | [v], depth, fits => by
    have value := spaced_pretty v depth (Bool.and_eq_true_iff.mp fits).1
    rw [prettyItems, String.toList_append]
    show Spaced ((Node.ofValue v).tokens ++ []) _
    rw [List.append_nil]
    exact (spaced_newLine depth).append value
  | v :: w :: rest, depth, fits => by
    obtain ⟨first, others⟩ := Bool.and_eq_true_iff.mp fits
    rw [prettyItems, String.toList_append, String.toList_append, String.toList_append]
    · exact ((spaced_newLine depth).append (spaced_pretty v depth first)).comma
        (spaced_prettyItems (w :: rest) depth others)
    · exact List.cons_ne_nil w rest

/-- Members on lines of their own. -/
theorem spaced_prettyMembers : (members : List (String × Value)) → ∀ depth, membersFit members = true →
    Spaced (memberTokens (memberNodes members)) (prettyMembers depth members).toList
  | [], _, _ => .nil
  | [(k, v)], depth, fits => by
    have value := spaced_pretty v depth (Bool.and_eq_true_iff.mp fits).1
    show Spaced (_ :: _ :: ((Node.ofValue v).tokens ++ [])) _
    rw [List.append_nil, prettyMembers]
    exact value.memberLine k depth
  | (k, v) :: m :: rest, depth, fits => by
    obtain ⟨first, others⟩ := Bool.and_eq_true_iff.mp fits
    rw [prettyMembers, String.toList_append, String.toList_append]
    · exact ((spaced_pretty v depth first).memberLine k depth).comma
        (spaced_prettyMembers (m :: rest) depth others)
    · exact List.cons_ne_nil m rest

end

/-! ## What is read -/

theorem written_compact {v : Value} (fits : v.fits = true) : Written (Node.ofValue v) v.compact :=
  spaced_compact v fits

theorem written_pretty {v : Value} (fits : v.fits = true) : Written (Node.ofValue v) v.pretty :=
  spaced_pretty v 0 fits

/-- A text that is written for a node has its tokens, whatever the blanks. -/
theorem tokens_of_written {n : Node} {text : String} (h : Written n text) : tokens text.toList = n.tokens :=
  tokens_of_spaced h (isChain_tokens n)

mutual

/-- A node is that of one value only. -/
theorem ofValue_injective : (v w : Value) → Node.ofValue v = Node.ofValue w → v = w
  | .scalar _, .scalar _, same => congrArg Value.scalar (Node.scalar.inj same)
  | .array xs, .array ys, same => congrArg Value.array (itemNodes_injective xs ys (Node.array.inj same).1)
  | .object xs, .object ys, same => congrArg Value.object (memberNodes_injective xs ys (Node.object.inj same).1)

theorem itemNodes_injective : (xs ys : List Value) → itemNodes xs = itemNodes ys → xs = ys
  | [], [], _ => rfl
  | v :: xs, w :: ys, same => by
    obtain ⟨first, rest⟩ := List.cons.inj same
    rw [ofValue_injective v w first, itemNodes_injective xs ys rest]

/-- Members are told by their nodes: a key is a string node. -/
theorem memberNodes_injective : (xs ys : List (String × Value)) → memberNodes xs = memberNodes ys → xs = ys
  | [], [], _ => rfl
  | (k, v) :: xs, (l, w) :: ys, same => by
    obtain ⟨first, rest⟩ := List.cons.inj same
    obtain ⟨key, value⟩ := Prod.mk.inj first
    have name : k = l := Scalar.string.inj (Node.scalar.inj key)
    rw [name, ofValue_injective v w value, memberNodes_injective xs ys rest]

end

/-- A text is written for one value at most. -/
theorem eq_of_written {v w : Value} {text : String} (h : Written (Node.ofValue v) text)
    (h' : Written (Node.ofValue w) text) : v = w := by
  have read := (ofText_of_written h).symm.trans (ofText_of_written h')
  exact ofValue_injective v w (Document.mk.inj read).1

end TraceQuery.Json
