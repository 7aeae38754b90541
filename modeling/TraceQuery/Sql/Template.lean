/-
  SQL fragments whose placeholders are renamed before use.

  A template is written with short names, `{KEY:String}`, and bound to the key of a filter, which
  makes `{<key>_key:String}` of it: the key, an underscore and the name in lower case
  (`boundName`).  Types and all other text stay as they are.  A template is not looked at with SQL's
  eyes: a placeholder inside quotes is renamed too.

  So a template has two sets of names: those of its pieces (`Template.names`), which are all renamed, and
  those that a finished query refers to (`placeholderNames`).  The first holds the second, and they
  differ exactly by what stands in quotes.

  Mathlib-free.
-/
import TraceQuery.Sql.Placeholder
import TraceQuery.Text.Casing

namespace TraceQuery.Sql

/-- A fragment of SQL whose placeholders have names of their own. -/
structure Template where
  text : String
deriving DecidableEq, Repr

/-- The name that a placeholder of a template gets under a key. -/
def boundName (key name : String) : String := key ++ "_" ++ Text.lowercase name

namespace Template

/-- The names of the placeholders, in order of appearance. -/
def names (t : Template) : List String := (placeholdersIn t.text).map Placeholder.name

/-- One piece with its name changed. -/
def renamePiece (f : String → String) : Piece → Piece
  | .other c => .other c
  | .placeholder p => .placeholder { p with name := f p.name }

/-- The text with every name changed. -/
def rename (t : Template) (f : String → String) : String :=
  String.ofList (((pieces t.text.toList).map (renamePiece f)).flatMap Piece.chars)

/-- The text with every name bound to a key. -/
def bindTo (t : Template) (key : String) : String := t.rename (boundName key)

end Template

end TraceQuery.Sql
