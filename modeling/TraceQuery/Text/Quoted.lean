/-
  A text inside double quotes, as messages show it.

  The quote, the backslash and the controls with a short name (tab, line feed, carriage return, NUL)
  are written with a backslash; any other character without a picture of its own (`isEscaped`) as
  `\u{…}` with its code point in small hexadecimal digits; an apostrophe stays.

  Mathlib-free.
-/
import TraceQuery.Text.Printable

namespace TraceQuery.Text

/-- A number in small hexadecimal digits. -/
def hexDigits (n : Nat) : List Char := Nat.toDigits 16 n

/-- How one character is shown between double quotes. -/
def quotedChar (c : Char) : List Char :=
  if c = '\x22' then ['\\', '\x22']
  else if c = '\\' then ['\\', '\\']
  else if c = '\t' then ['\\', 't']
  else if c = '\n' then ['\\', 'n']
  else if c = '\r' then ['\\', 'r']
  else if c.toNat = 0 then ['\\', '0']
  else if isEscaped c then ['\\', 'u', '\x7b'] ++ hexDigits c.toNat ++ ['\x7d']
  else [c]

/-- A text between double quotes. -/
def quoted (s : String) : String :=
  String.ofList ('\x22' :: s.toList.flatMap quotedChar ++ ['\x22'])

/-- Texts between double quotes, in square brackets and set apart by commas. -/
def quotedList (ss : List String) : String := "[" ++ ", ".intercalate (ss.map quoted) ++ "]"

end TraceQuery.Text
