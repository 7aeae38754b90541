/-
  JSON values and their texts.

  1. **Numbers** are integers that fit 64 bits, signed or unsigned, or finite doubles.  The two kinds
     stay apart: `5` and `5.0` are different values.
  2. **Objects** are lists of members, so that their order is part of the value.
  3. **Compact text** has no blanks.  **Pretty text** starts every item and member on a line of its
     own, two spaces deeper than its container, and puts a space after a colon; an empty container
     stays on one line.
  4. **Strings** escape the quote, the backslash and the controls below U+0020, and nothing else.

  Mathlib-free.
-/
import TraceQuery.Decimal.Layout

namespace TraceQuery.Json

open TraceQuery.Decimal (Finite Layout)

/-- A number as JSON tells them apart: with a fraction or without. -/
inductive Number where
  | integer (n : Int)
  | float (x : Finite)
deriving DecidableEq

/-- A value that holds no others. -/
inductive Scalar where
  | null
  | bool (b : Bool)
  | number (n : Number)
  | string (s : String)
deriving DecidableEq

/-- A value of JSON. -/
inductive Value where
  | scalar (s : Scalar)
  | array (items : List Value)
  | object (members : List (String × Value))

namespace Value

/-- The null value. -/
def null : Value := .scalar .null

/-- A truth value. -/
def bool (b : Bool) : Value := .scalar (.bool b)

/-- A whole number. -/
def integer (n : Int) : Value := .scalar (.number (.integer n))

/-- A text. -/
def string (s : String) : Value := .scalar (.string s)

end Value

/-! ## Scalars -/

/-- The short escapes: what follows the backslash, and the character it stands for. -/
def shortEscapes : List (Char × Char) :=
  [('\x22', '\x22'), ('\\', '\\'), ('b', '\x08'), ('f', '\x0c'), ('n', '\n'), ('r', '\r'), ('t', '\t')]

/-- Two small hexadecimal digits. -/
def hexByte (n : Nat) : List Char := [Nat.digitChar (n / 16), Nat.digitChar (n % 16)]

/-- A character inside a string. -/
def escapedChar (c : Char) : List Char :=
  match shortEscapes.find? fun e => e.2 == c with
  | some (letter, _) => ['\\', letter]
  -- the other controls by their code point; all that is not ASCII stays as it is
  | none => if c.toNat < 0x20 then ['\\', 'u', '0', '0'] ++ hexByte c.toNat else [c]

/-- The text of a string, with its quotes. -/
def writeString (s : String) : String :=
  String.ofList ('\x22' :: s.toList.flatMap escapedChar ++ ['\x22'])

/-- The text of a number; a double shows a fraction or an exponent. -/
def Number.text : Number → String
  | integer n => Text.writeInt n
  | float x => Layout.number.writeFinite x

/-- The text of a scalar, on one line in either style. -/
def Scalar.text : Scalar → String
  | null => "null"
  | bool b => if b then "true" else "false"
  | number n => n.text
  | string s => writeString s

/-! ## Compact text -/

mutual

/-- The text without blanks. -/
def Value.compact : Value → String
  | .scalar s => s.text
  | .array items => "[" ++ compactItems items ++ "]"
  | .object members => "\x7b" ++ compactMembers members ++ "\x7d"

/-- The items of an array with commas between them. -/
def compactItems : List Value → String
  | [] => ""
  | [v] => v.compact
  | v :: rest => v.compact ++ "," ++ compactItems rest

/-- The members of an object with commas between them. -/
def compactMembers : List (String × Value) → String
  | [] => ""
  | [(k, v)] => writeString k ++ ":" ++ v.compact
  | (k, v) :: rest => writeString k ++ ":" ++ v.compact ++ "," ++ compactMembers rest

end

/-! ## Pretty text -/

/-- A line break and the indentation of a depth. -/
def newLine (depth : Nat) : String := String.ofList ('\n' :: List.replicate (2 * depth) ' ')

mutual

/-- The text on lines, inside `depth` containers. -/
def Value.prettyAt (depth : Nat) : Value → String
  | .scalar s => s.text
  | .array [] => "[]"
  | .array (v :: rest) => "[" ++ prettyItems (depth + 1) (v :: rest) ++ newLine depth ++ "]"
  | .object [] => "\x7b\x7d"
  | .object (m :: rest) => "\x7b" ++ prettyMembers (depth + 1) (m :: rest) ++ newLine depth ++ "\x7d"

/-- The items of an array, each on a line of its own. -/
def prettyItems (depth : Nat) : List Value → String
  | [] => ""
  | [v] => newLine depth ++ v.prettyAt depth
  | v :: rest => newLine depth ++ v.prettyAt depth ++ "," ++ prettyItems depth rest

/-- The members of an object, each on a line of its own. -/
def prettyMembers (depth : Nat) : List (String × Value) → String
  | [] => ""
  | [(k, v)] => newLine depth ++ writeString k ++ ": " ++ v.prettyAt depth
  | (k, v) :: rest =>
    newLine depth ++ writeString k ++ ": " ++ v.prettyAt depth ++ "," ++ prettyMembers depth rest

end

/-- The text on lines. -/
def Value.pretty (v : Value) : String := v.prettyAt 0

/-! ## Members -/

/-- Sets a member; one with that key keeps its place. -/
def setMember (key : String) (value : Value) : List (String × Value) → List (String × Value)
  | [] => [(key, value)]
  | (k, v) :: rest => if k = key then (k, value) :: rest else (k, v) :: setMember key value rest

/-- Members with one value for each key: the last one, in the place of the first. -/
def uniqueMembers (members : List (String × Value)) : List (String × Value) :=
  members.foldl (fun kept (key, value) => setMember key value kept) []

end TraceQuery.Json
