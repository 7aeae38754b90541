/-
  Patterns for a search inside text.

  In a pattern `%` stands for any text, `_` for any one character, and a backslash makes the next of
  these, or another backslash, stand for itself.  `escapeLike` writes a text so that it stands for
  itself, and `containing` is the pattern of all texts with that text inside.

  The pattern is a value and is bound like any other; only the reader of patterns in the database sees
  these characters, so the escaping is apart from the quoting of SQL (Sql/Quoting).

  Mathlib-free.
-/
namespace TraceQuery.Sql

/-- The characters that mean something in a pattern. -/
def isLikeSpecial (c : Char) : Bool := c == '\\' || c == '%' || c == '_'

/-- The pattern of one character that stands for itself. -/
def likeChar (c : Char) : List Char := if isLikeSpecial c then ['\\', c] else [c]

/-- The pattern of exactly this text. -/
def escapeLike (s : String) : String := String.ofList (s.toList.flatMap likeChar)

/-- The pattern of the texts that hold this text. -/
def containing (s : String) : String := "%" ++ escapeLike s ++ "%"

end TraceQuery.Sql
