/-
  How a double is written.

  The digits come from `Finite.shortest`; a `Layout` says how they are laid out: between which
  decimal exponents the notation is positional, whether a whole number keeps `.0`, and which way a
  tie of two equally short decimals goes.  Two layouts are used.

  * `Layout.number`: positional from 1e-5 up to, and not including, 1e16, and otherwise one digit,
    the point, the other digits, `e`, the sign and the exponent.  A whole number ends in `.0`.
  * `Layout.plain`: always positional, and a whole number has no point.

  The first is the layout of numbers in rendered results, where a reader of JSON must see a number with
  a fraction.  The second turns a number into a text value, as for a filter on a text column, where
  `3` and not `3.0` is meant.  Laws of writing are about one function with the layout as parameter.

  Mathlib-free.
-/
import TraceQuery.Decimal.Shortest
import TraceQuery.Text.Numeral

namespace TraceQuery.Decimal

open TraceQuery.Text (writeNat writeInt)

/-- How digits become a text. -/
structure Layout where
  tie : Tie
  /-- The decimal exponents, first and last, that are written without `e`; `none` means all. -/
  positional : Option (Int × Int)
  /-- Tells whether a whole number is written with `.0`. -/
  keepsPoint : Bool
deriving DecidableEq, Repr

/-- Numbers in rendered results: positional from 1e-5 to below 1e16, whole numbers with `.0`. -/
def Layout.number : Layout := ⟨.even, some (-5, 15), true⟩

/-- Numbers turned into text values: no exponent, and no point in a whole number. -/
def Layout.plain : Layout := ⟨.up, none, false⟩

/-! ## Placing the point -/

/-- Digits with the point after the first `1 + exponent` of them, filled up with zeros. -/
def positionalChars (keepsPoint : Bool) (ds : List Char) (exponent : Int) : List Char :=
  if exponent < 0 then
    '0' :: '.' :: List.replicate (-exponent - 1).toNat '0' ++ ds
  else
    let whole := exponent.toNat + 1
    if ds.length ≤ whole then
      ds ++ List.replicate (whole - ds.length) '0' ++ (if keepsPoint then ['.', '0'] else [])
    else ds.take whole ++ '.' :: ds.drop whole

/-- One digit, the point, the other digits, and the exponent with its sign. -/
def scientificChars (ds : List Char) (exponent : Int) : List Char :=
  let mantissa := match ds with
    | [] => []
    | [d] => [d]
    | d :: rest => d :: '.' :: rest
  mantissa ++ 'e' :: (if exponent < 0 then '-' else '+') :: (writeNat exponent.natAbs).toList

/-! ## Writing -/

/-- Tells whether a number whose first digit stands for this power of ten is written without `e`. -/
def Layout.isPositional (l : Layout) (exponent : Int) : Bool :=
  match l.positional with
  | none => true
  | some (first, last) => first ≤ exponent && exponent ≤ last

/-- The text of a magnitude, without its sign. -/
def Layout.magnitudeChars (l : Layout) (x : Finite) : List Char :=
  if x.isZero then '0' :: (if l.keepsPoint then ['.', '0'] else [])
  else
    let shortest := x.shortest l.tie
    let ds := Nat.toDigits 10 shortest.digits
    -- the digits are a whole number times a power; the exponent is that of the first digit
    let exponent := shortest.power + Int.ofNat ds.length - 1
    if l.isPositional exponent then positionalChars l.keepsPoint ds exponent
    else scientificChars ds exponent

/-- The text of a finite double; the sign is written for a negative zero as well. -/
def Layout.writeFinite (l : Layout) (x : Finite) : String :=
  String.ofList ((if x.negative then ['-'] else []) ++ l.magnitudeChars x)

/-- The text of a double. -/
def Layout.write (l : Layout) : Double → String
  | .notANumber => "NaN"
  | .infinite negative => if negative then "-inf" else "inf"
  | .finite x => l.writeFinite x

end TraceQuery.Decimal
