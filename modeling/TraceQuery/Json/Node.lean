/-
  Documents: what can be read of a JSON text.

  1. **Nodes** are values that may be cut short.  Where the text stops making sense, a node is a
     `fault`, or a container is not `closed`; what came before is all there.  So a reader that goes
     through a node from the left meets the first problem of the text first, whether it is in the
     text's form or in what the reader wanted to see there.
  2. **Parsing** (`Document.ofTokens`) is one pass over the tokens with a stack of open containers
     (`Frame`) and a `Place` that says what may come next.  At a token that may not come the open
     containers are cut short, from the inside out.
  3. **Keys** are nodes, because a string that cannot be read is a key too, one that no reader takes.
     An object ends before anything else that stands in a key's place.
  4. **Values as nodes**: `Node.ofValue` has no faults.

  Parsing never fails: every row of tokens has a document, and the errors are left to the reader, which
  knows what it wanted.  A parser with an error of its own would report a fault at the end of the text
  before a wrong type at its beginning.  The parser is a loop over tokens and not a recursion over
  values, so depth costs no stack, and its steps (`step`) can be reasoned about one at a time.

  Mathlib-free.
-/
import TraceQuery.Json.Token

namespace TraceQuery.Json

/-! ## Nodes -/

/-- A value as far as the text goes. -/
inductive Node where
  | fault
  | unreadable
  | scalar (s : Scalar)
  | array (items : List Node) (closed : Bool)
  | object (members : List (Node × Node)) (closed : Bool)

mutual

/-- A value as a node. -/
def Node.ofValue : Value → Node
  | .scalar s => .scalar s
  | .array items => .array (itemNodes items) true
  | .object members => .object (memberNodes members) true

/-- Items as nodes, in order. -/
def itemNodes : List Value → List Node
  | [] => []
  | v :: rest => Node.ofValue v :: itemNodes rest

/-- Members as nodes, in order, their keys as strings. -/
def memberNodes : List (String × Value) → List (Node × Node)
  | [] => []
  | (k, v) :: rest => (.scalar (.string k), Node.ofValue v) :: memberNodes rest

end

/-! ## Open containers -/

/-- An open container with what it holds so far, last first. -/
inductive Frame where
  | items (done : List Node)
  | members (done : List (Node × Node))
  /-- An object after the key of its next member. -/
  | member (done : List (Node × Node)) (key : Node)

/-- What may come next. -/
inductive Place where
  /-- A value. -/
  | value
  /-- A value, or the end of an array that has no items. -/
  | firstItem
  /-- A key. -/
  | key
  /-- A key, or the end of an object that has no members. -/
  | firstKey
  /-- The colon after a key. -/
  | colon
  /-- A comma, or the end of the innermost container. -/
  | after

/-- The node of a container that is cut short, and of those around it. -/
def cutShort : List Frame → Node → Node
  | [], n => n
  | .items done :: stack, n => cutShort stack (.array (done.reverse ++ [n]) false)
  -- a fault in a key's place is no member, so the object ends with the member before
  | .members done :: stack, _ => cutShort stack (.object done.reverse false)
  | .member done key :: stack, n => cutShort stack (.object (done.reverse ++ [(key, n)]) false)

/-- The whole of a text: its value, and whether something stands after it. -/
structure Document where
  root : Node
  trailing : Bool

/-- The document of a text that stops making sense with some containers open. -/
def cutDocument (stack : List Frame) : Document := ⟨cutShort stack .fault, false⟩

/-! ## Parsing -/

/-- The parser's state: open containers and what may come next, or the finished root. -/
inductive Progress where
  | open (stack : List Frame) (place : Place)
  | done (root : Node)

/-- The state after a complete value. -/
def completed (n : Node) : List Frame → Progress
  | [] => .done n
  | .items done :: stack => .open (.items (n :: done) :: stack) .after
  | .member done key :: stack => .open (.members ((key, n) :: done) :: stack) .after
  | .members done :: stack => .open (.members done :: stack) .after

/-- The state after the first token of a value; `none` if no value begins with it. -/
def beginValue (t : Token) (stack : List Frame) : Option Progress :=
  match t with
  | .scalar s => some (completed (.scalar s) stack)
  | .unreadable => some (completed .unreadable stack)
  | .openBracket => some (.open (.items [] :: stack) .firstItem)
  | .openBrace => some (.open (.members [] :: stack) .firstKey)
  | _ => none

/-- The state after a key; `none` if the token is no key. -/
def beginMember (t : Token) : List Frame → Option Progress
  | .members done :: stack =>
    match t with
    | .scalar (.string s) => some (.open (.member done (.scalar (.string s)) :: stack) .colon)
    | .unreadable => some (.open (.member done .unreadable :: stack) .colon)
    | _ => none
  | _ => none

/-- One step: the state after a token, or the document cut short there. -/
def step (t : Token) (stack : List Frame) (place : Place) : Except Document Progress :=
  let cut : Except Document Progress := .error (cutDocument stack)
  match place with
  | .value => match beginValue t stack with
    | some p => .ok p
    | none => cut
  -- an array may end here, and otherwise this is the place of a value
  | .firstItem => match t, stack with
    | .closeBracket, .items done :: stack => .ok (completed (.array done.reverse true) stack)
    | _, _ => match beginValue t stack with
      | some p => .ok p
      | none => cut
  | .key => match beginMember t stack with
    | some p => .ok p
    | none => cut
  | .firstKey => match t, stack with
    | .closeBrace, .members done :: stack => .ok (completed (.object done.reverse true) stack)
    | _, _ => match beginMember t stack with
      | some p => .ok p
      | none => cut
  | .colon => match t with
    | .colon => .ok (.open stack .value)
    | _ => cut
  | .after => match t, stack with
    | .comma, .items _ :: _ => .ok (.open stack .value)
    | .comma, .members _ :: _ => .ok (.open stack .key)
    | .closeBracket, .items done :: stack => .ok (completed (.array done.reverse true) stack)
    | .closeBrace, .members done :: stack => .ok (completed (.object done.reverse true) stack)
    | _, _ => cut

/-- The document of the tokens that are left. -/
def parseFrom : Progress → List Token → Document
  | .done root, [] => ⟨root, false⟩
  | .done root, _ :: _ => ⟨root, true⟩
  | .open stack _, [] => cutDocument stack
  | .open stack place, t :: ts =>
    match step t stack place with
    | .ok p => parseFrom p ts
    | .error d => d

namespace Document

/-- The document of a row of tokens. -/
def ofTokens (ts : List Token) : Document := parseFrom (.open [] .value) ts

/-- The document of a text. -/
def ofText (text : String) : Document := ofTokens (tokens text.toList)

/-- The document of a text can be computed from its tokens, which a bound on its length makes reducible. -/
theorem ofText_of_tokens {text : String} {ts : List Token}
    (h : tokensWithin text.toList.length text.toList = ts) : ofText text = ofTokens ts := by
  rw [ofText, tokens_eq_tokensWithin (Nat.le_refl _), h]

end Document

/-! ## What is in a node -/

mutual

/-- Tells whether the text of the node is complete; unreadable scalars do not matter. -/
def Node.isComplete : Node → Bool
  | .fault => false
  | .unreadable => true
  | .scalar _ => true
  | .array items closed => itemsComplete items && closed
  | .object members closed => membersComplete members && closed

/-- Tells whether all items are complete. -/
def itemsComplete : List Node → Bool
  | [] => true
  | n :: rest => n.isComplete && itemsComplete rest

/-- Tells whether all members are complete, with their keys. -/
def membersComplete : List (Node × Node) → Bool
  | [] => true
  | (k, n) :: rest => k.isComplete && n.isComplete && membersComplete rest

end

mutual

/-- The value of the node, if it is complete and readable and at most `levels` containers deep.  Of
    the members with one key the last one counts. -/
def Node.toValue? : Nat → Node → Option Value
  | _, .scalar s => some (.scalar s)
  | levels + 1, .array items true => (itemValues levels items).map .array
  -- an object that is not closed has no value, however many members can be read
  | levels + 1, .object members true =>
    (memberValues levels members).map fun ms => .object (uniqueMembers ms)
  | _, _ => none

/-- The values of all items, if each has one. -/
def itemValues (levels : Nat) : List Node → Option (List Value)
  | [] => some []
  | n :: rest => do
    let v ← n.toValue? levels
    let vs ← itemValues levels rest
    some (v :: vs)

/-- The members with their values, if each key is a string that can be read and each node has a value. -/
def memberValues (levels : Nat) : List (Node × Node) → Option (List (String × Value))
  | [] => some []
  | (.scalar (.string k), n) :: rest => do
    let v ← n.toValue? levels
    let vs ← memberValues levels rest
    some ((k, v) :: vs)
  | _ => none

end

end TraceQuery.Json
