/-
  Filters: a column, an operator and a value.

  The value arrives as text or as a number, and a column reads it in one of three ways.

  * **As text**: a number is written in plain notation.
  * **As a double**: a text is trimmed and read as a number; only finite values count.
  * **As an integer of 64 bits**: a text that is a whole number in range is taken as it stands, with
    every digit; anything else is read as a double and cut toward zero, if that is in range.

  So a text can carry an integer exactly which the number in its place cannot: a number has been a double
  from the start.  The last fallback is also taken by a whole number just out of range, and rounding can
  bring such a number back into it.

  Mathlib-free.
-/
import TraceQuery.Filter.Operator
import TraceQuery.Decimal.Layout
import TraceQuery.Decimal.Numeral
import TraceQuery.Query.Param
import TraceQuery.Sql.ColumnType
import TraceQuery.Text.Blank

namespace TraceQuery

open TraceQuery.Decimal (Double Finite Layout readDouble)

/-- A value as a request gives it. -/
inductive FilterValue where
  | text (s : String)
  | number (d : Double)
deriving DecidableEq

/-- One wish of a request: the rows whose column stands in this relation to the value. -/
structure Filter where
  column : String
  operator : Operator
  value : FilterValue
deriving DecidableEq

/-! ## Reading a value -/

/-- Tells whether an integer fits a bound integer. -/
def fitsInteger (n : Int) : Bool :=
  -Int.ofNat (Text.maxInteger + 1) ≤ n && n ≤ Int.ofNat Text.maxInteger

namespace FilterValue

/-- The value as text. -/
def toText : FilterValue → String
  | text s => s
  | number d => Layout.plain.write d

/-- The number as it stands, which need not be finite. -/
def toDouble? : FilterValue → Option Double
  | text s => readDouble (Text.trim s)
  | number d => some d

/-- The value as a finite number. -/
def toFinite? (v : FilterValue) : Option Finite := v.toDouble?.bind Double.finite?

/-- The value as a finite number, cut toward zero. -/
def truncated? (v : FilterValue) : Option Int :=
  v.toFinite?.bind fun x => if fitsInteger x.truncate then some x.truncate else none

/-- The value as an integer of 64 bits. -/
def toInteger? : FilterValue → Option Int
  | text s =>
    match Text.readInteger (Text.trim s) with
    | .ok n => some n
    | .error _ => (text s).truncated?
  | number d => (number d).truncated?

end FilterValue

/-- The bound value of a numeric filter; `none` when the value is no such number. -/
def Sql.NumericType.coerce : Sql.NumericType → FilterValue → Option ParamValue
  | .float64, v => v.toFinite?.map fun x => .float (.finite x)
  | .int64, v => v.toInteger?.map .int

end TraceQuery
