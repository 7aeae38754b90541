/-
  Placeholders `{name:Type}`: the only way a value gets into a query.

  1. **Form**: an opening brace, a name (a letter or underscore, then letters, digits and
     underscores), a colon, a type (letters, digits, underscores and parentheses, at least one), a
     closing brace.  All of it is ASCII.
  2. **Cutting up**: `pieces` reads a text from the left; where a placeholder starts it is one piece,
     anywhere else the character is.  Neither class holds the character that ends it, so a
     placeholder is never longer or shorter than `placeholderAt?` says, and two never overlap.
  3. **References of a query**: `placeholderNames` cuts up the text with its quoted parts blanked, so
     a literal or an identifier in backticks refers to nothing.  The names are a set: in order, each
     once.

  A set of names is a list in ascending order (`pairwise_nameSet`), so two sets with the same members
  are the same list, and the first name that is missing somewhere is the least one.  A placeholder is
  shorter than the text that it stands in (`placeholderAt?_shortens`), by which `pieces` ends.

  Mathlib-free.
-/
import TraceQuery.Sql.Quoting
import TraceQuery.Sql.ColumnType

namespace TraceQuery.Sql

/-! ## Form -/

/-- The letters of ASCII. -/
def isAsciiLetter (c : Char) : Bool := ('A' ≤ c && c ≤ 'Z') || ('a' ≤ c && c ≤ 'z')

/-- The digits of ASCII. -/
def isAsciiDigit (c : Char) : Bool := '0' ≤ c && c ≤ '9'

/-- The characters of a name. -/
def isNameChar (c : Char) : Bool := isAsciiLetter c || isAsciiDigit c || c == '_'

/-- The characters of a type. -/
def isTypeChar (c : Char) : Bool := isNameChar c || c == '(' || c == ')'

/-- Tells whether the characters are a name. -/
def isName : List Char → Bool
  | [] => false
  | c :: cs => (isAsciiLetter c || c == '_') && cs.all isNameChar

/-- A placeholder as it stands in a text. -/
structure Placeholder where
  name : String
  type : String
deriving DecidableEq, Repr

/-- The brace that begins a placeholder. -/
def openBrace : Char := '\x7b'

/-- The brace that ends a placeholder. -/
def closeBrace : Char := '\x7d'

/-- How a placeholder is written. -/
def Placeholder.text (p : Placeholder) : String := "\x7b" ++ p.name ++ ":" ++ p.type ++ "\x7d"

/-- The placeholder for a value of a column type. -/
def placeholder (name : String) (type : ColumnType) : String :=
  Placeholder.text ⟨name, type.text⟩

/-! ## Cutting up -/

/-- The placeholder at the front of a text, and what follows it. -/
def placeholderAt? : List Char → Option (Placeholder × List Char)
  | [] => none
  | b :: cs =>
    if b = openBrace then
      let name := cs.takeWhile isNameChar
      match cs.dropWhile isNameChar with
      | colon :: cs =>
        let type := cs.takeWhile isTypeChar
        match cs.dropWhile isTypeChar with
        | close :: rest =>
          -- the longest runs of the two classes are taken first, and then all that stands between is checked
          if colon = ':' ∧ close = closeBrace ∧ isName name ∧ type ≠ [] then
            some (⟨String.ofList name, String.ofList type⟩, rest)
          else none
        | [] => none
      | [] => none
    else none

/-- Dropping a run from the front makes nothing longer. -/
theorem length_dropWhile_le (p : Char → Bool) (cs : List Char) :
    (cs.dropWhile p).length ≤ cs.length := (List.dropWhile_sublist p).length_le

/-- A placeholder uses up at least its brace. -/
theorem placeholderAt?_shortens {cs rest : List Char} {p : Placeholder}
    (h : placeholderAt? cs = some (p, rest)) : rest.length < cs.length := by
  cases cs with
  | nil => simp [placeholderAt?] at h
  | cons b cs =>
    have names := length_dropWhile_le isNameChar cs
    -- the tests of the definition in their order; only the innermost one gives a placeholder
    simp only [placeholderAt?] at h
    split at h
    · split at h
      · rename_i colon afterName hName
        have types := length_dropWhile_le isTypeChar afterName
        split at h
        · rename_i close afterType hType
          split at h
          · simp only [Option.some.injEq, Prod.mk.injEq] at h
            rw [hName] at names
            rw [hType] at types
            simp only [List.length_cons] at names types ⊢
            rw [← h.2]
            omega
          · simp at h
        · simp at h
      · simp at h
    · simp at h

/-- A text is a row of placeholders and other characters. -/
inductive Piece where
  | other (c : Char)
  | placeholder (p : Placeholder)
deriving DecidableEq, Repr

/-- The pieces of a text, from the left. -/
def pieces (cs : List Char) : List Piece :=
  match _h : placeholderAt? cs with
  | some (p, rest) => .placeholder p :: pieces rest
  | none =>
    match cs with
    | [] => []
    | c :: rest => .other c :: pieces rest
termination_by cs.length
decreasing_by
  · exact placeholderAt?_shortens _h
  · simp

namespace Piece

/-- The placeholder that a piece is. -/
def placeholder? : Piece → Option Placeholder
  | other _ => none
  | placeholder p => some p

/-- The characters that a piece stands for. -/
def chars : Piece → List Char
  | other c => [c]
  | placeholder p => p.text.toList

end Piece

/-- The placeholders of a text, from the left. -/
def placeholdersIn (s : String) : List Placeholder := (pieces s.toList).filterMap Piece.placeholder?

/-! ## Sets of names -/

/-- Adds a name to a list of names in ascending order without repetition. -/
def insertName (name : String) : List String → List String
  | [] => [name]
  | n :: ns =>
    if name < n then name :: n :: ns
    else if n < name then n :: insertName name ns
    else n :: ns

/-- The names of a list in ascending order, each once. -/
def nameSet (names : List String) : List String := names.foldr insertName []

/-- A name that is added is a member, and nothing else changes. -/
theorem mem_insertName {name n : String} {ns : List String} :
    n ∈ insertName name ns ↔ n = name ∨ n ∈ ns := by
  induction ns with
  | nil => simp [insertName]
  | cons m ns ih =>
    simp only [insertName]
    split
    · simp
    · split
      · simp only [List.mem_cons, ih]
        constructor
        · rintro (h | h | h) <;> simp [h]
        · rintro (h | h | h) <;> simp [h]
      · rename_i h₁ h₂
        -- neither is less than the other, so the name is there already
        have : m = name := String.le_antisymm (String.not_lt.mp h₁) (String.not_lt.mp h₂)
        subst this
        simp

/-- A set has the members of the list that it is made of. -/
theorem mem_nameSet {n : String} {names : List String} : n ∈ nameSet names ↔ n ∈ names := by
  induction names with
  | nil => simp [nameSet]
  | cons m names ih =>
    have : nameSet (m :: names) = insertName m (nameSet names) := rfl
    simp [this, mem_insertName, ih]

/-- Adding a name keeps the order, and keeps it strict, so nothing is there twice. -/
theorem pairwise_insertName {name : String} {ns : List String} (h : ns.Pairwise (· < ·)) :
    (insertName name ns).Pairwise (· < ·) := by
  induction ns with
  | nil => simp [insertName]
  | cons m ns ih =>
    have hm := List.pairwise_cons.mp h
    simp only [insertName]
    split
    · rename_i lt
      refine List.pairwise_cons.mpr ⟨fun n hn => ?_, h⟩
      rcases List.mem_cons.mp hn with rfl | hn
      · exact lt
      · exact String.lt_trans lt (hm.1 n hn)
    · split
      · rename_i gt
        refine List.pairwise_cons.mpr ⟨fun n hn => ?_, ih hm.2⟩
        rcases mem_insertName.mp hn with rfl | hn
        · exact gt
        · exact hm.1 n hn
      · exact h

/-- A set of names ascends. -/
theorem pairwise_nameSet (names : List String) : (nameSet names).Pairwise (· < ·) := by
  induction names with
  | nil => exact List.Pairwise.nil
  | cons m names ih => exact pairwise_insertName ih

/-! ## References of a query -/

/-- The names that a query refers to outside quotes, in ascending order, each once. -/
def placeholderNames (query : String) : List String :=
  nameSet ((placeholdersIn (blankQuoted query)).map Placeholder.name)

end TraceQuery.Sql
