/-
  A file of assignments to environment names, one a line.

  1. **Lines** (`takeLine`): a line ends at a line feed outside quotes, or at a comment, which is a
     `#` after a blank and hides the rest of its line.  A text that stops inside quotes, right after a
     blank or after a backslash has no last line.
  2. **Assignments** (`readAssignment`): a name, an equals sign and a value, with `export` in front if
     one likes.  Empty lines and lines that begin with `#` assign nothing.
  3. **Values** (`readValue`): characters stand for themselves, except that a backslash escapes, single
     quotes hold text as it is, double quotes hold text with escapes, and a dollar sign refers to a
     name of the environment, which may stand in braces.  After a blank outside quotes only a comment
     may follow.
  4. **Loading** (`Environment.load`): assignments take effect one after another, and the first line
     that is no assignment ends the file.  It fails only at a value that cannot be kept.

  Mathlib-free.
-/
import TraceQuery.Environment.Basic
import TraceQuery.Text.Alphanumeric
import TraceQuery.Text.Blank

namespace TraceQuery

open TraceQuery.Text (isBlank isAlphanumeric dropBlanks trimChars)

namespace Environment

/-- Quotes text with escapes and references in it. -/
def doubleQuote : Char := '\x22'

/-- Quotes text that stands as it is. -/
def apostrophe : Char := '\x27'

/-- Begins a name in braces after a dollar sign. -/
def openBrace : Char := '\x7b'

/-- Ends a name in braces. -/
def closeBrace : Char := '\x7d'

/-! ## Lines -/

/-- Where a reader of lines stands. -/
inductive LineState where
  | text
  /-- After a blank. -/
  | blank
  | escape
  | single
  | singleEscape
  | double
  | doubleEscape
deriving DecidableEq, Repr

/-- Where the reader stands after one more character. -/
def LineState.next (s : LineState) (c : Char) : LineState :=
  match s with
  | text | blank =>
    if c = '\\' then escape
    else if c = doubleQuote then double
    else if c = apostrophe then single
    -- a blank after a blank is plain text again, so in a row of blanks every second one counts
    else if s = text ∧ isBlank c ∧ c ≠ '\n' ∧ c ≠ '\r' then blank
    else text
  | escape => text
  | double => if c = '\\' then doubleEscape else if c = doubleQuote then text else double
  | doubleEscape => double
  | single => if c = '\\' then singleEscape else if c = apostrophe then text else single
  | singleEscape => single

/-- What follows the line feed that ends the current line. -/
def restOfText (cs : List Char) : List Char := (cs.dropWhile fun c => c ≠ '\n').drop 1

/-- The line at the front of a text, and what follows it; `none` if the text stops inside it. -/
def takeLine : LineState → List Char → Option (List Char × List Char)
  | s, [] => if s = .text then some ([], []) else none
  | s, c :: rest =>
    if s = .blank ∧ c = '#' then some ([], restOfText rest)
    else if c = '\n' ∧ s.next c = .text then some ([], rest)
    else (takeLine (s.next c) rest).map fun (line, rest) => (c :: line, rest)

/-- Dropping the rest of a line makes no text longer, which is what the loop over lines needs of it. -/
theorem length_restOfText_le (cs : List Char) : (restOfText cs).length ≤ cs.length := by
  have := (List.dropWhile_sublist (fun c => decide (c ≠ '\n')) (l := cs)).length_le
  simp only [restOfText, List.length_drop]
  omega

/-- A line that is taken from a text leaves less of it: the loop over lines ends. -/
theorem takeLine_shortens {s : LineState} {c : Char} {cs line rest : List Char}
    (h : takeLine s (c :: cs) = some (line, rest)) : rest.length < (c :: cs).length := by
  -- on the text after the first character, from any state: the state changes with every character
  induction cs generalizing s c line with
  | nil =>
    simp only [takeLine] at h
    split at h
    · simp only [Option.some.injEq, Prod.mk.injEq] at h
      simp [← h.2, restOfText]
    · split at h
      · simp only [Option.some.injEq, Prod.mk.injEq] at h
        simp [← h.2]
      · split at h
        · simp only [Option.map_some, Option.some.injEq, Prod.mk.injEq] at h
          simp [← h.2]
        · simp at h
  | cons d ds ih =>
    rw [takeLine] at h
    split at h
    · simp only [Option.some.injEq, Prod.mk.injEq] at h
      have := length_restOfText_le (d :: ds)
      rw [← h.2, List.length_cons]
      omega
    · split at h
      · simp only [Option.some.injEq, Prod.mk.injEq] at h
        simp [← h.2]
      · obtain ⟨⟨l, r⟩, hr, heq⟩ := Option.map_eq_some_iff.mp h
        obtain ⟨_, rfl⟩ := Prod.mk.inj heq
        have := ih hr
        simp only [List.length_cons] at this ⊢
        omega

/-! ## Values -/

/-- Where a reader of a value stands. -/
inductive ValueState where
  | text
  | escape
  | double
  | doubleEscape
  | single
  /-- After a dollar sign and the characters of a name; the flag is set inside double quotes. -/
  | name (quoted : Bool) (chars : List Char)
  /-- After a dollar sign, an opening brace and the characters of a name. -/
  | bracedName (quoted : Bool) (chars : List Char)
  /-- After a blank outside quotes: the value is over. -/
  | afterValue
  /-- Inside the comment after a value. -/
  | comment
deriving DecidableEq, Repr

/-- The value of a name that a value refers to; no value counts as empty.  An entry is kept as its
    name, an equals sign and its value, so what is looked up may reach into the value as far as to
    another equals sign. -/
def reference (e : Environment) (name : List Char) : List Char :=
  let value := ((e.get? (String.ofList (name.takeWhile fun c => c ≠ '='))).getD "").toList
  match name.dropWhile fun c => c ≠ '=' with
  | [] => value
  | _ :: more => if (more ++ ['=']).isPrefixOf value then value.drop (more.length + 1) else []

/-- The character that an escape stands for. -/
def escaped? (c : Char) : Option Char :=
  if c = 'n' then some '\n'
  else if c = '\\' ∨ c = apostrophe ∨ c = doubleQuote ∨ c = '$' ∨ c = ' ' then some c
  else none

/-- Text outside references: double quotes and plain text go on where they were. -/
def ValueState.resume (quoted : Bool) : ValueState := if quoted then .double else .text

/-- One character of a value: the next state, and what the character adds to the value. -/
def ValueState.next (e : Environment) (s : ValueState) (c : Char) :
    Option (ValueState × List Char) :=
  match s with
  | text =>
    if c = '$' then some (.name false [], [])
    else if c = apostrophe then some (.single, [])
    else if c = doubleQuote then some (.double, [])
    else if c = '\\' then some (.escape, [])
    else if c = ' ' ∨ c = '\t' then some (.afterValue, [])
    else some (.text, [c])
  | double =>
    if c = '$' then some (.name true [], [])
    else if c = doubleQuote then some (.text, [])
    else if c = '\\' then some (.doubleEscape, [])
    else some (.double, [c])
  | escape => (escaped? c).map fun d => (.text, [d])
  | doubleEscape => (escaped? c).map fun d => (.double, [d])
  | single => if c = apostrophe then some (.text, []) else some (.single, [c])
  | name quoted chars =>
    if isAlphanumeric c then some (.name quoted (chars ++ [c]), [])
    else if c = openBrace ∧ chars = [] then some (.bracedName quoted [], [])
    -- a second dollar sign ends one name and begins the next
    else if c = '$' then some (.name quoted [], reference e chars)
    else some (.resume quoted, reference e chars ++ [c])
  | bracedName quoted chars =>
    if c = closeBrace then some (.resume quoted, reference e chars)
    else some (.bracedName quoted (chars ++ [c]), [])
  | afterValue =>
    if c = ' ' ∨ c = '\t' then some (.afterValue, []) else if c = '#' then some (.comment, []) else none
  | comment => some (.comment, [])

/-- What the end of a value adds to it; a value does not end inside quotes or braces. -/
def ValueState.finish (e : Environment) : ValueState → Option (List Char)
  | text | escape | afterValue | comment => some []
  | name false chars => some (reference e chars)
  | name true _ | bracedName _ _ | double | doubleEscape | single => none

/-- The value that a text stands for. -/
def readValue (e : Environment) : ValueState → List Char → Option (List Char)
  | s, [] => s.finish e
  | s, c :: rest => do
    let (s, added) ← s.next e c
    let value ← readValue e s rest
    return added ++ value

/-! ## Assignments -/

/-- What a line says. -/
inductive Assignment where
  | nothing
  | assign (name value : String)
  | malformed
deriving DecidableEq, Repr

/-- The characters that a name begins with. -/
def isNameStart (c : Char) : Bool := c.isAlpha || c == '_'

/-- The characters that a name goes on with. -/
def isNameRest (c : Char) : Bool := c.isAlphanum || c == '_' || c == '.'

/-- The name at the front, and what follows it and the blanks behind it. -/
def takeName : List Char → Option (List Char × List Char)
  | [] => none
  | c :: rest =>
    if isNameStart c then
      some ((c :: rest).takeWhile isNameRest, dropBlanks ((c :: rest).dropWhile isNameRest))
    else none

/-- The name that a line assigns to, and what follows the equals sign; `export` may stand in front,
    or be the name itself. -/
def takeTarget (cs : List Char) : Option (List Char × List Char) := do
  let (name, rest) ← takeName cs
  match rest with
  | '=' :: rest => some (name, rest)
  | _ =>
    if name = "export".toList then
      let (name, rest) ← takeName rest
      match rest with
      | '=' :: rest => some (name, rest)
      | _ => none
    else none

/-- Tells whether nothing or a comment is left. -/
def isBare : List Char → Bool
  | [] => true
  | c :: _ => c == '#'

/-- What a line says in an environment. -/
def readAssignment (e : Environment) (line : List Char) : Assignment :=
  let cs := trimChars line
  if isBare cs then .nothing
  else match takeTarget cs with
    | none => .malformed
    | some (name, rest) =>
      let rest := dropBlanks rest
      -- a comment in place of a value leaves the value empty
      if isBare rest then .assign (String.ofList name) ""
      else match readValue e .text rest with
        | none => .malformed
        | some value => .assign (String.ofList name) (String.ofList value)

/-! ## Loading -/

/-- Tells whether the first line of a text is a comment. -/
def beginsWithComment (cs : List Char) : Bool :=
  (dropBlanks (cs.takeWhile fun c => c ≠ '\n')).head? == some '#'

/-- The environment after the assignments of a text. -/
def loadChars (e : Environment) (cs : List Char) : Except UnstorableValue Environment :=
  match cs with
  | [] => .ok e
  | c :: rest =>
    -- such a line is dropped before quotes in it could be taken for open ones
    if beginsWithComment (c :: rest) then loadChars e (restOfText (c :: rest))
    else match _h : takeLine .text (c :: rest) with
      | none => .ok e
      | some (line, left) =>
        match readAssignment e line with
        | .nothing => loadChars e left
        | .assign name value =>
          match e.provide name value with
          | .ok e => loadChars e left
          | .error u => .error u
        | .malformed => .ok e
termination_by cs.length
decreasing_by
  · have := (List.dropWhile_sublist (fun c => decide (c ≠ '\n')) (l := c :: rest)).length_le
    simp only [restOfText, List.length_drop, List.length_cons] at this ⊢
    omega
  · exact takeLine_shortens _h
  · exact takeLine_shortens _h

/-- The environment after the assignments of a file; a mark of byte order in front does not count. -/
def load (e : Environment) (text : String) : Except UnstorableValue Environment :=
  match text.toList with
  | '\ufeff' :: rest => e.loadChars rest
  | cs => e.loadChars cs

end Environment

end TraceQuery
