/-
  Paging: which rows of a list a query asks for.

  1. **Requests** (`PageInput`) page in one of two ways: `limit` and `offset`, or a page number
     counted from 0 and a page size.  A limit wins over a page size (`PageInput.page?`).
  2. **Limits**: `PageInput.clamp` gives a request without a size the default size and caps the sizes.
  3. **Bounds**: counts have 64 bits; the offset of a page stops at the largest count, and a bound
     parameter stops at the largest signed integer, so neither wraps nor is negative.

  Mathlib-free.
-/
import TraceQuery.Filter.Column
import TraceQuery.Text.Numeral

namespace TraceQuery

open TraceQuery.Text (maxCount maxInteger)
open TraceQuery.Sql (placeholder)

/-- A row count and the rows passed over. -/
structure Page where
  limit : Nat
  offset : Nat
deriving DecidableEq, Repr

/-- The page of this number, counted from 0. -/
def Page.ofNumber (number size : Nat) : Page := ⟨size, min (number * size) maxCount⟩

/-- A count as a bound integer. -/
def boundCount (n : Nat) : ParamValue := .int (Int.ofNat (min n maxInteger))

/-- The clause of a page, with its counts as parameters. -/
def Page.clause (p : Page) : Condition :=
  { text := "LIMIT " ++ placeholder "limit" .int64 ++ " OFFSET " ++ placeholder "offset" .int64
    bindings := [("limit", boundCount p.limit), ("offset", boundCount p.offset)] }

/-- The paging of a request. -/
structure PageInput where
  pageNumber : Option Nat
  pageSize : Option Nat
  limit : Option Nat
  offset : Option Nat
deriving DecidableEq, Repr

namespace PageInput

/-- Nothing asked for. -/
def none : PageInput := ⟨.none, .none, .none, .none⟩

/-- The page that a request asks for, if it asks for one. -/
def page? (p : PageInput) : Option Page :=
  match p.limit with
  -- with a limit the other style is not looked at, nor is an offset without one
  | some limit => some ⟨limit, p.offset.getD 0⟩
  | .none => p.pageSize.map fun size => Page.ofNumber (p.pageNumber.getD 0) size

/-- The request with the default size, if it has none, and its sizes capped. -/
def clamp (p : PageInput) (defaultSize maxSize : Nat) : PageInput :=
  -- an offset alone asks for no size, so it gets the default page size and is passed over (`page?`)
  let sized := if p.limit.isNone && p.pageSize.isNone then { p with pageSize := some defaultSize } else p
  { sized with
    limit := sized.limit.map fun n => min n maxSize
    pageSize := sized.pageSize.map fun n => min n maxSize }

end PageInput

end TraceQuery
