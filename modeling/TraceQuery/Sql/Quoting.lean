/-
  Quoted text inside SQL.

  1. **The scan**: `Quoting` says where a reader of SQL stands: outside quotes, inside a literal in
     single quotes, right after a backslash of such a literal, or inside an identifier in backticks.
     `Quoting.next` is one step.  A backslash escapes inside literals only; a doubled quote closes
     its span and opens the next one.
  2. **Blanking**: `blankQuoted` turns everything inside quotes into spaces and keeps the quotes, so
     that what is left can be searched for syntax.
  3. **Balance**: a text is balanced when a scan that starts outside quotes ends there.  Balanced
     texts can be put side by side without one seeing into the other (`blankChars_append`).
  4. **Writing quotes**: `quoteIdentifier` doubles backticks, `quoteLiteral` escapes backslashes and
     single quotes.

  Mathlib-free.
-/
namespace TraceQuery.Sql

/-! ## The scan -/

/-- The quote around literals. -/
def singleQuote : Char := '\x27'

/-- The quote around identifiers. -/
def backtick : Char := '\x60'

/-- The sign that escapes inside literals. -/
def backslash : Char := '\\'

/-- Where a reader of SQL stands. -/
inductive Quoting where
  | outside
  | literal
  | escape
  | identifier
deriving DecidableEq, Repr

namespace Quoting

/-- Where the reader stands after one more character. -/
def next : Quoting → Char → Quoting
  | outside, c =>
    if c = singleQuote then literal else if c = backtick then identifier else outside
  | literal, c => if c = backslash then escape else if c = singleQuote then outside else literal
  | escape, _ => literal
  | identifier, c => if c = backtick then outside else identifier

/-- Where the reader stands after a text. -/
def after (q : Quoting) (cs : List Char) : Quoting := cs.foldl next q

/-- What blanking leaves of a character: itself outside quotes and where it closes a span, else a
    space. -/
def shown : Quoting → Char → Char
  | outside, c => c
  | literal, c => if c = singleQuote then c else ' '
  | escape, _ => ' '
  | identifier, c => if c = backtick then c else ' '

@[simp] theorem after_nil (q : Quoting) : q.after [] = q := rfl

@[simp] theorem after_cons (q : Quoting) (c : Char) (cs : List Char) :
    q.after (c :: cs) = (q.next c).after cs := rfl

/-- A scan of two texts is a scan of the first and then, from where it ended, of the second. -/
@[simp] theorem after_append (q : Quoting) (xs ys : List Char) :
    q.after (xs ++ ys) = (q.after xs).after ys := by simp [after]

end Quoting

/-! ## Blanking -/

/-- The text with every character inside quotes made a space. -/
def blankChars : Quoting → List Char → List Char
  | _, [] => []
  | q, c :: cs => q.shown c :: blankChars (q.next c) cs

/-- The text with its quoted parts blanked. -/
def blankQuoted (s : String) : String := String.ofList (blankChars .outside s.toList)

/-- Blanking a text in two parts: the second part starts where the first one ends. -/
theorem blankChars_append (q : Quoting) (xs ys : List Char) :
    blankChars q (xs ++ ys) = blankChars q xs ++ blankChars (q.after xs) ys := by
  induction xs generalizing q with
  | nil => rfl
  | cons c xs ih => simp [blankChars, ih]

/-- Blanking keeps every position. -/
theorem length_blankChars (q : Quoting) (cs : List Char) : (blankChars q cs).length = cs.length := by
  induction cs generalizing q with
  | nil => rfl
  | cons c cs ih => simp [blankChars, ih]

/-! ## Balance -/

/-- A scan of the text that starts outside quotes ends outside quotes. -/
def Balanced (s : String) : Prop := Quoting.outside.after s.toList = .outside

/-- Balance of a text that is written down can be computed. -/
instance (s : String) : Decidable (Balanced s) :=
  inferInstanceAs (Decidable (Quoting.outside.after s.toList = .outside))

theorem balanced_empty : Balanced "" := rfl

theorem Balanced.append {s t : String} (hs : Balanced s) (ht : Balanced t) : Balanced (s ++ t) := by
  simp only [Balanced] at *
  rw [String.toList_append, Quoting.after_append, hs, ht]

/-- What holds of the empty text and of two texts side by side holds of a list of texts. -/
theorem intercalate_closed {P : String → Prop} (empty : P "")
    (append : ∀ {s t : String}, P s → P t → P (s ++ t)) {separator : String} (hs : P separator)
    {parts : List String} (h : ∀ part ∈ parts, P part) : P (separator.intercalate parts) := by
  induction parts with
  | nil =>
    rw [String.intercalate_nil]
    exact empty
  | cons a parts ih =>
    have ha := h a List.mem_cons_self
    cases parts with
    | nil =>
      rw [String.intercalate_singleton]
      exact ha
    | cons b parts =>
      rw [String.intercalate_cons_cons]
      exact append (append ha hs) (ih fun part hp => h part (List.mem_cons_of_mem a hp))

/-! ## Writing quotes -/

/-- Inside backticks a backtick is written twice. -/
def identifierChar (c : Char) : List Char := if c = backtick then [backtick, backtick] else [c]

/-- Inside single quotes a backslash and a single quote follow a backslash. -/
def literalChar (c : Char) : List Char :=
  if c = backslash ∨ c = singleQuote then [backslash, c] else [c]

/-- The text as an identifier in backticks. -/
def quoteIdentifier (s : String) : String :=
  String.ofList (backtick :: s.toList.flatMap identifierChar ++ [backtick])

/-- The text as a literal in single quotes. -/
def quoteLiteral (s : String) : String :=
  String.ofList (singleQuote :: s.toList.flatMap literalChar ++ [singleQuote])

/-- A projected expression under an output name. -/
def aliased (expression name : String) : String := expression ++ " AS " ++ quoteIdentifier name

end TraceQuery.Sql
