/-
  Filters as a request writes them.

  A filter is an object with `column`, `operator` and `value`, other keys being passed over, or an
  array of the three.  The value is a string or a number; a number written as an integer is rounded
  to a double.  A list of filters in a text of its own has bounds on its length in bytes and on the
  number of filters.

  1. **Parts**: numbers, operators, values and directions, each with its own error.
  2. **One filter** (`Filter.ofNode`): an object is read member by member into a draft, in which a key
     counts once, and the draft is finished when the object has ended; an array is read by position.
  3. **A list in a text of its own** (`parseFilters`): its length is looked at first, then the text is
     read, and then the filters are counted.  Whatever is wrong in reading comes out as one kind of
     error, with the reader's message inside.

  Mathlib-free.
-/
import TraceQuery.Decimal.Rounding
import TraceQuery.Filter.Basic
import TraceQuery.Json.Reading
import TraceQuery.Query.Error
import TraceQuery.Select.Sort

namespace TraceQuery

open TraceQuery.Decimal (Scaled Double)
open TraceQuery.Json (Node ReadError Origin Document once required)

/-! ## Parts -/

/-- The double nearest to a number. -/
def Json.Number.toDouble : Json.Number → Double
  | integer n => Scaled.toDouble ⟨n < 0, n.natAbs, 0⟩
  | float x => .finite x

/-- An operator by its name, which has one spelling. -/
def Operator.ofNode (n : Node) : Except ReadError Operator := do
  let name ← n.readString
  match Operator.ofName? name with
  | some op => return op
  | none => .error (.unknownOperator name)

/-- A string or a number, taken in as a whole first. -/
def FilterValue.ofNode (origin : Origin) (n : Node) : Except ReadError FilterValue := do
  -- a value that breaks off is malformed, whatever its kind would have been
  n.whole origin
  match n with
  | .scalar (.string s) => return .text s
  | .scalar (.number x) => return .number x.toDouble
  | _ => .error .notAFilterValue

/-- The names of the directions. -/
def Direction.ofName (name : String) : Except ReadError Direction :=
  if name = "ASC" ∨ name = "asc" then .ok .asc
  else if name = "DESC" ∨ name = "desc" then .ok .desc
  else .error (.unknownDirection name)

/-- The null that may stand beside the name of a direction. -/
def readUnit : Node → Except ReadError Unit
  | .scalar .null => .ok ()
  | n => .error (n.mismatch .unit)

/-- A direction: its name, or an object with the name as its only key and null beside it. -/
def Direction.ofNode (origin : Origin) (n : Node) : Except ReadError Direction :=
  match origin, n with
  | _, .scalar (.string name) => Direction.ofName name
  | .text _, .object ((.scalar (.string name), value) :: rest) closed => do
    let direction ← Direction.ofName name
    readUnit value
    -- in a text the object is read as it comes, so what follows the one member counts
    if rest.isEmpty && closed then return direction else .error .malformed
  | .text _, _ => .error .malformed
  | .value, .object [(.scalar (.string name), value)] _ => do
    let direction ← Direction.ofName name
    readUnit value
    return direction
  | .value, .object _ _ => .error (.wrongValue .map .singleKeyMap)
  | .value, n => .error (n.mismatch .stringOrMap)

/-! ## One filter -/

/-- A filter of which some keys have been read. -/
structure FilterDraft where
  column : Option String
  operator : Option Operator
  value : Option FilterValue

/-- Takes in one member of a filter; a key that is none of the three is skipped with its value. -/
def FilterDraft.put (origin : Origin) (d : FilterDraft) (key : String) (n : Node) :
    Except ReadError FilterDraft :=
  match key with
  | "column" => do return { d with column := ← once d.column key n.readString }
  | "operator" => do return { d with operator := ← once d.operator key (Operator.ofNode n) }
  | "value" => do return { d with value := ← once d.value key (FilterValue.ofNode origin n) }
  | _ => do
    n.skip
    return d

/-- The filter, if all three keys have come; the first one missing is reported. -/
def FilterDraft.finish (d : FilterDraft) : Except ReadError Filter := do
  let column ← required "column" d.column
  let operator ← required "operator" d.operator
  let value ← required "value" d.value
  return ⟨column, operator, value⟩

/-- A filter written as an array. -/
def Filter.ofItems (origin : Origin) (items : List Node) (closed : Bool) :
    Except ReadError Filter := do
  let (n, rest) ← Node.nextItem .filter 0 closed items
  let column ← n.readString
  let (n, rest) ← Node.nextItem .filter 1 closed rest
  let operator ← Operator.ofNode n
  let (n, rest) ← Node.nextItem .filter 2 closed rest
  let value ← FilterValue.ofNode origin n
  Node.endOfItems origin items.length closed rest
  return ⟨column, operator, value⟩

/-- A filter; `origin` is where the filter itself stands. -/
def Filter.ofNode (origin : Origin) : Node → Except ReadError Filter
  | .object members closed => do
    let draft ← Node.readMembers (FilterDraft.put origin.inside) closed ⟨none, none, none⟩ members
    draft.finish
  | .array items closed => Filter.ofItems origin.inside items closed
  | n => .error (n.mismatch (.record .filter))

/-- A list of filters; `origin` is where the list stands. -/
def readFilters (origin : Origin) : Node → Except ReadError (List Filter) :=
  Node.readList (Filter.ofNode origin.inside)

/-! ## A list of filters in a text of its own -/

/-- The largest length of such a text, in bytes. -/
def maxFilterBytes : Nat := 65536

/-- Refuses more filters than are allowed. -/
def checkFilterCount (max : Nat) (filters : List Filter) : Except QueryError Unit :=
  if max < filters.length then .error (.tooManyFilters max filters.length) else .ok ()

/-- The filters of a text, at most `max` of them. -/
def parseFilters (text : String) (max : Nat) : Except QueryError (List Filter) := do
  -- length comes before reading, so a text that is too long is never looked into
  if maxFilterBytes < text.utf8ByteSize then
    .error (.invalidFilterJson
      ("Filter JSON exceeds maximum size of " ++ Text.writeNat maxFilterBytes ++ " bytes"))
  else
    match (Document.ofText text).read (readFilters (.text 0)) with
    | .error e => .error (.invalidFilterJson e.message)
    | .ok filters =>
      -- and the number of filters after it, so a malformed text is malformed however many filters it has
      checkFilterCount max filters
      return filters

end TraceQuery
