/-
  Reading a double from the text of a number.

  A numeral is an optional sign, digits with an optional point (digits on at least one side of it),
  and an optional exponent: `e` or `E`, an optional sign, at least one digit.  Besides, `inf`,
  `infinity` and `nan` in any case of letters, with an optional sign.  Nothing else may stand beside
  it, not even blanks.

  The digits on both sides of the point are read as one whole number, and the digits behind the point
  are taken off the exponent, so a numeral is a `Scaled` before anything is rounded.  The numerals of
  JSON are a part of these, with a scanner of their own (Json/Token) that ends in the same rounding.

  Mathlib-free.
-/
import TraceQuery.Decimal.Rounding
import TraceQuery.Text.Numeral

namespace TraceQuery.Decimal

open TraceQuery.Text (isDigit digitsValue)

/-! ## The parts of a numeral -/

/-- The digits at the front, and the rest. -/
def splitDigits (cs : List Char) : List Char × List Char := cs.span isDigit

/-- A signed whole number that ends the text: the exponent after its letter. -/
def readExponent (cs : List Char) : Option Int :=
  let (negative, digits) := match cs with
    | '-' :: rest => (true, rest)
    | '+' :: rest => (false, rest)
    | rest => (false, rest)
  if digits.isEmpty || !digits.all isDigit then none
  else
    let n := Int.ofNat (digitsValue 0 digits)
    some (if negative then -n else n)

/-- The exponent part up to the end of the text; no exponent counts as zero. -/
def readExponentPart : List Char → Option Int
  | [] => some 0
  | c :: rest => if c = 'e' || c = 'E' then readExponent rest else none

/-- A numeral without its sign. -/
def readMagnitude (negative : Bool) (cs : List Char) : Option Scaled := do
  let (whole, rest) := splitDigits cs
  let (fraction, rest) := match rest with
    | '.' :: rest => splitDigits rest
    | rest => ([], rest)
  if whole.isEmpty && fraction.isEmpty then none
  else
    let exponent ← readExponentPart rest
    some ⟨negative, digitsValue 0 (whole ++ fraction), exponent - Int.ofNat fraction.length⟩

/-- The names of the doubles that are not finite. -/
def readName (negative : Bool) (cs : List Char) : Option Double :=
  let name := String.ofList (cs.map Char.toLower)
  if name = "inf" || name = "infinity" then some (.infinite negative)
  else if name = "nan" then some .notANumber
  else none

/-! ## Reading -/

/-- The double that a text denotes. -/
def readDouble (s : String) : Option Double :=
  let (negative, cs) := match s.toList with
    | '-' :: rest => (true, rest)
    | '+' :: rest => (false, rest)
    | cs => (false, cs)
  match readMagnitude negative cs with
  | some d => some d.toDouble
  | none => readName negative cs

end TraceQuery.Decimal
