/-
  Reading typed data out of a document.

  1. **First problem wins**: readers go through a node from the left and stop at the first thing
     wrong, in the data or in the text (`ReadError`).  The end of a container comes after its items,
     and what stands after the whole text comes last (`Document.read`).
  2. **Records** are objects with known keys.  A key that comes twice is an error when it comes again;
     a key that is missing is one when the object ends.
  3. **Found and wanted**: a node of the wrong kind is named by its kind and, for a scalar, its value.

  A reader of a record is a function `put` that takes in one member, together with `readMembers`, which
  goes through them in order; what a record is at its end is decided by its own function.  Values that
  nobody wants are passed over in one of two ways: `Node.skip` asks only for complete text, and
  `Node.whole` also for numbers that can be read and a depth that can be kept.

  Mathlib-free.
-/
import TraceQuery.Json.Node
import TraceQuery.Text.Quoted

namespace TraceQuery.Json

/-! ## What is wrong -/

/-- What stands where something else was wanted. -/
inductive Found where
  | null
  | bool (b : Bool)
  | integer (n : Int)
  | float (x : Decimal.Finite)
  | string (s : String)
  | sequence
  | map
deriving DecidableEq

/-- The records that are read. -/
inductive RecordKind where
  | filter
  | spansRequest
  | sessionsRequest
  | evalRequest
  | configFile
  | querySection
  | outputSection
deriving DecidableEq, Repr

/-- What is wanted. -/
inductive Wanted where
  | string
  | sequence
  | count
  | size
  | boolean
  | unit
  | stringOrMap
  | singleKeyMap
  | record (kind : RecordKind)
deriving DecidableEq, Repr

/-- Why data cannot be read. -/
inductive ReadError where
  | malformed
  | wrongType (found : Found) (wanted : Wanted)
  | wrongValue (found : Found) (wanted : Wanted)
  | missingField (key : String)
  | duplicateField (key : String)
  | tooShort (length : Nat) (kind : RecordKind)
  | tooLong (length : Nat)
  | unknownDirection (name : String)
  | unknownOperator (name : String)
  | notAFilterValue
deriving DecidableEq

/-! ## Messages -/

/-- What was found, in messages; scalars show their value. -/
def Found.text : Found → String
  | null => "null"
  | bool b => "boolean `" ++ (if b then "true" else "false") ++ "`"
  | integer n => "integer `" ++ Text.writeInt n ++ "`"
  | float x => "floating point `" ++ Decimal.Layout.number.writeFinite x ++ "`"
  | string s => "string " ++ Text.quoted s
  | sequence => "sequence"
  | map => "map"

/-- The name of a record in messages. -/
def RecordKind.name : RecordKind → String
  | filter => "FilterDef"
  | spansRequest => "SpansQueryOptions"
  | sessionsRequest => "SessionsQueryOptions"
  | evalRequest => "EvalQueryRequest"
  | configFile => "FileConfig"
  | querySection => "QueryFileConfig"
  | outputSection => "OutputFileConfig"

/-- How many items a record has when it is written as an array. -/
def RecordKind.arity : RecordKind → Nat
  | filter => 3
  | querySection => 3
  | outputSection => 1
  | _ => 0

/-- What was wanted, in messages. -/
def Wanted.text : Wanted → String
  | string => "a string"
  | sequence => "a sequence"
  | count => "u64"
  | size => "usize"
  | boolean => "a boolean"
  | unit => "unit"
  | stringOrMap => "string or map"
  | singleKeyMap => "map with a single key"
  | record kind => "struct " ++ kind.name

/-- What is told about data that cannot be read. -/
def ReadError.message : ReadError → String
  | malformed => "malformed JSON"
  | wrongType found wanted => "invalid type: " ++ found.text ++ ", expected " ++ wanted.text
  | wrongValue found wanted => "invalid value: " ++ found.text ++ ", expected " ++ wanted.text
  | missingField key => "missing field `" ++ key ++ "`"
  | duplicateField key => "duplicate field `" ++ key ++ "`"
  | tooShort length kind =>
    "invalid length " ++ Text.writeNat length ++ ", expected struct " ++ kind.name ++ " with " ++
      Text.writeNat kind.arity ++ (if kind.arity = 1 then " element" else " elements")
  | tooLong length =>
    "invalid length " ++ Text.writeNat length ++ ", expected fewer elements in array"
  | unknownDirection name =>
    "unknown variant `" ++ name ++ "`, expected one of `ASC`, `asc`, `DESC`, `desc`"
  | unknownOperator name => "Unknown filter operator: " ++ name
  | notAFilterValue => "data did not match any variant of untagged enum FilterValue"

/-! ## Where a node is -/

/-- Where a node comes from: from a text, inside so many open containers, or from a value that has
    been read before. -/
inductive Origin where
  | text (depth : Nat)
  | value
deriving DecidableEq, Repr

/-- The containers that a text may have open at once where values are kept. -/
def maxDepth : Nat := 127

/-- One container further in. -/
def Origin.inside : Origin → Origin
  | .text depth => .text (depth + 1)
  | .value => .value

/-! ## Scalars -/

namespace Node

/-- What a node is, for a message; a fault is nothing, and neither is a scalar that cannot be read. -/
def found? : Node → Option Found
  | fault => none
  | unreadable => none
  | scalar .null => some .null
  | scalar (.bool b) => some (.bool b)
  | scalar (.number (.integer n)) => some (.integer n)
  | scalar (.number (.float x)) => some (.float x)
  | scalar (.string s) => some (.string s)
  | array _ _ => some .sequence
  | object _ _ => some .map

/-- The error of a node that is not what is wanted. -/
def mismatch (n : Node) (wanted : Wanted) : ReadError :=
  match n.found? with
  | some found => .wrongType found wanted
  | none => .malformed

/-- A string. -/
def readString : Node → Except ReadError String
  | scalar (.string s) => .ok s
  | n => .error (n.mismatch .string)

/-- A truth value. -/
def readBool : Node → Except ReadError Bool
  | scalar (.bool b) => .ok b
  | n => .error (n.mismatch .boolean)

/-- A count of 64 bits, which is not negative. -/
def readCount (wanted : Wanted) : Node → Except ReadError Nat
  | scalar (.number (.integer n)) =>
    if 0 ≤ n then .ok n.toNat else .error (.wrongValue (.integer n) wanted)
  | n => .error (n.mismatch wanted)

/-- Nothing for null, and else what the reader reads. -/
def readOptional {α : Type} (read : Node → Except ReadError α) : Node → Except ReadError (Option α)
  | scalar .null => .ok none
  | n => (read n).map some

/-! ## Containers -/

/-- The items of an array, in order. -/
def readItems {α : Type} (read : Node → Except ReadError α) (closed : Bool) :
    List Node → Except ReadError (List α)
  | [] => if closed then .ok [] else .error .malformed
  | n :: rest => do
    let a ← read n
    let as ← readItems read closed rest
    return a :: as

/-- A list of what the reader reads. -/
def readList {α : Type} (read : Node → Except ReadError α) : Node → Except ReadError (List α)
  | array items closed => readItems read closed items
  | n => .error (n.mismatch .sequence)

/-- A list of strings. -/
def readStrings : Node → Except ReadError (List String) := readList readString

/-- The key of a member. -/
def readKey : Node → Except ReadError String
  | scalar (.string s) => .ok s
  | _ => .error .malformed

/-- Goes through the members of an object in order. -/
def readMembers {σ : Type} (put : σ → String → Node → Except ReadError σ) (closed : Bool) :
    σ → List (Node × Node) → Except ReadError σ
  | s, [] => if closed then .ok s else .error .malformed
  | s, (key, n) :: rest => do
    -- the key comes before its value in the text, so it is the first that can be wrong
    let key ← key.readKey
    let s ← put s key n
    readMembers put closed s rest

/-- The item at the front of a record written as an array, of which `index` items have been read. -/
def nextItem (kind : RecordKind) (index : Nat) (closed : Bool) :
    List Node → Except ReadError (Node × List Node)
  | n :: rest => .ok (n, rest)
  | [] => .error (if closed then .tooShort index kind else .malformed)

/-- The end of a record written as an array: nothing may be left. -/
def endOfItems (origin : Origin) (length : Nat) (closed : Bool) (rest : List Node) :
    Except ReadError Unit :=
  match origin with
  -- a text must go on with the end here, and anything else is a fault of its form
  | .text _ => if rest.isEmpty && closed then .ok () else .error .malformed
  | .value => if rest.isEmpty then .ok () else .error (.tooLong length)

/-- Passes over a value that nobody wants. -/
def skip (n : Node) : Except ReadError Unit :=
  if n.isComplete then .ok () else .error .malformed

/-- Takes in a value as a whole before it is looked at. -/
def whole (origin : Origin) (n : Node) : Except ReadError Unit :=
  match origin with
  | .value => .ok ()
  -- the containers that are open already count against the depth that can be kept
  | .text depth => if (n.toValue? (maxDepth - depth)).isSome then .ok () else .error .malformed

end Node

/-- The value of a key that has none yet. -/
def once {α : Type} (old : Option α) (key : String) (read : Except ReadError α) :
    Except ReadError (Option α) :=
  if old.isSome then .error (.duplicateField key) else read.map some

/-- The value of a key that must be there. -/
def required {α : Type} (key : String) : Option α → Except ReadError α
  | some a => .ok a
  | none => .error (.missingField key)

/-- Reads the whole document: its root, and then that nothing follows. -/
def Document.read {α : Type} (d : Document) (read : Node → Except ReadError α) :
    Except ReadError α := do
  let a ← read d.root
  if d.trailing then .error .malformed else return a

end TraceQuery.Json
