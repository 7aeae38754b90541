/-
  Column types, as a placeholder names them.

  Two of them are numeric for filtering: a value is read as a double or as an integer of 64 bits
  (`ColumnType.numeric?`); an unsigned column is filtered as an integer.

  A type is what the SQL names, and a numeric type is how a value is read, so a filter that reads a value
  in one way can name it in another.  The numeric filters name what they read (`NumericType.columnType`);
  the array filters name the type of the elements and read by `numeric?`, which tells fewer types apart.

  Mathlib-free.
-/
namespace TraceQuery.Sql

/-- The types that a placeholder can name; arrays nest to any depth. -/
inductive ColumnType where
  | string
  | float64
  | int64
  | uint64
  | uuid
  | array (element : ColumnType)
deriving DecidableEq, Repr

/-- How a numeric filter reads its value. -/
inductive NumericType where
  | float64
  | int64
deriving DecidableEq, Repr

namespace ColumnType

/-- The name of the type inside a placeholder. -/
def text : ColumnType → String
  | string => "String"
  | float64 => "Float64"
  | int64 => "Int64"
  | uint64 => "UInt64"
  | uuid => "UUID"
  | array element => "Array(" ++ element.text ++ ")"

/-- How values of this type are read when a filter compares numbers. -/
def numeric? : ColumnType → Option NumericType
  | float64 => some .float64
  | int64 => some .int64
  | uint64 => some .int64
  | _ => none

end ColumnType

/-- The type of the placeholder a numeric value is bound to. -/
def NumericType.columnType : NumericType → ColumnType
  | .float64 => .float64
  | .int64 => .int64

end TraceQuery.Sql
