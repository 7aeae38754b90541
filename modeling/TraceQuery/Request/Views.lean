/-
  Requests as they arrive: the JSON of a spans, a sessions or an evaluation request.

  1. **Own keys** are read when they are reached.  Absent lists are empty, absent or null options are
     none; null is no list.
  2. **Shared keys**, of the time selection and of paging, and unknown keys are taken in as they are
     and looked at when the object has ended: first the time selection, then paging, each in the
     order of the text (`readTime`, `readPage`).  Unknown keys are then dropped.
  3. A request must be an object.

  A key that comes twice is an error, and which error a request with several faults has is part of
  what is read here: own keys fail in the order of the text, and what a shared key says is only looked
  at after them.

  Drafts have two levels of options.  The outer one says whether the key has come, which decides about
  repetition; the inner one whether it came with a value or with null.  They are joined at the end.

  Mathlib-free.
-/
import TraceQuery.Request.Filters
import TraceQuery.View.Evaluations
import TraceQuery.View.Sessions

namespace TraceQuery

open TraceQuery.Json (Node ReadError Origin Document RecordKind once required)

/-! ## Shared keys -/

/-- Members that wait until the object has ended, last first. -/
abbrev Kept := List (String × Node)

/-- Takes in a member that is looked at later. -/
def Kept.put (kept : Kept) (key : String) (n : Node) : Except ReadError Kept := do
  -- even a member that is dropped in the end must be well formed
  n.whole (.text 1)
  return (key, n) :: kept

/-- The kept members in the order of the text. -/
def Kept.members (kept : Kept) : List (Node × Node) :=
  kept.reverse.map fun (key, n) => (.scalar (.string key), n)

/-- The time selection among the kept members; a key counts once. -/
def Kept.readTime (kept : Kept) : Except ReadError TimeInput := do
  let text := Node.readOptional Node.readString
  let put (d : Option (Option String) × Option (Option String) × Option (Option String))
      (key : String) (n : Node) :=
    match key with
    | "pastHours" => do return (← once d.1 key (text n), d.2)
    | "startDate" => do return (d.1, ← once d.2.1 key (text n), d.2.2)
    | "endDate" => do return (d.1, d.2.1, ← once d.2.2 key (text n))
    -- keys of paging and unknown ones are here too, and mean nothing to the window
    | _ => .ok d
  let (pastHours, startDate, endDate) ← Node.readMembers put true (none, none, none) kept.members
  return ⟨pastHours.join, startDate.join, endDate.join⟩

/-- Paging of which some keys have been read. -/
structure PageDraft where
  pageNumber : Option (Option Nat)
  pageSize : Option (Option Nat)
  limit : Option (Option Nat)
  offset : Option (Option Nat)

/-- Takes in one paging key; null counts as given, so the key cannot come again after it. -/
def PageDraft.put (d : PageDraft) (key : String) (n : Node) : Except ReadError PageDraft :=
  let count := Node.readOptional (Node.readCount .count) n
  match key with
  | "pageNumber" => do return { d with pageNumber := ← once d.pageNumber key count }
  | "pageSize" => do return { d with pageSize := ← once d.pageSize key count }
  | "limit" => do return { d with limit := ← once d.limit key count }
  | "offset" => do return { d with offset := ← once d.offset key count }
  | _ => .ok d

/-- Paging among the kept members; a key counts once. -/
def Kept.readPage (kept : Kept) : Except ReadError PageInput := do
  let d ← Node.readMembers PageDraft.put true ⟨none, none, none, none⟩ kept.members
  return ⟨d.pageNumber.join, d.pageSize.join, d.limit.join, d.offset.join⟩

/-- Reads a request, which must be an object. -/
def readRequest {σ : Type} (kind : RecordKind) (put : σ → String → Node → Except ReadError σ)
    (start : σ) : Node → Except ReadError σ
  | .object members closed => Node.readMembers put closed start members
  | n => .error (n.mismatch (.record kind))

/-- Filters as a member of a request. -/
def requestFilters : Node → Except ReadError (List Filter) := readFilters (.text 1)

/-- A text or null as a member of a request. -/
def requestText : Node → Except ReadError (Option String) := Node.readOptional Node.readString

/-- A sort direction or null as a member of a request. -/
def requestDirection : Node → Except ReadError (Option Direction) :=
  Node.readOptional (Direction.ofNode (.text 1))

/-! ## Spans -/

/-- A spans request of which some keys have been read. -/
structure SpansDraft where
  spanIds : Option (List String)
  traceIds : Option (List String)
  filters : Option (List Filter)
  sortBy : Option (Option String)
  sortDirection : Option (Option Direction)
  kept : Kept

/-- Takes in one member: an own key is read now, and any other is kept for later. -/
def SpansDraft.put (d : SpansDraft) (key : String) (n : Node) : Except ReadError SpansDraft :=
  match key with
  | "spanIds" => do return { d with spanIds := ← once d.spanIds key n.readStrings }
  | "traceIds" => do return { d with traceIds := ← once d.traceIds key n.readStrings }
  | "filters" => do return { d with filters := ← once d.filters key (requestFilters n) }
  | "sortBy" => do return { d with sortBy := ← once d.sortBy key (requestText n) }
  | "sortDirection" => do
    return { d with sortDirection := ← once d.sortDirection key (requestDirection n) }
  | _ => do return { d with kept := ← d.kept.put key n }

/-- The request in a node.  The time selection is looked at before paging, whatever their order in the
    text, and both after every own key. -/
def SpansRequest.ofNode (n : Node) : Except ReadError SpansRequest := do
  let d ← readRequest .spansRequest SpansDraft.put ⟨none, none, none, none, none, []⟩ n
  let time ← d.kept.readTime
  let page ← d.kept.readPage
  return {
    spanIds := d.spanIds.getD []
    traceIds := d.traceIds.getD []
    filters := d.filters.getD []
    time
    sortBy := d.sortBy.join
    sortDirection := d.sortDirection.join
    page }

/-- The spans request in a text. -/
def SpansRequest.ofText (text : String) : Except ReadError SpansRequest :=
  (Document.ofText text).read SpansRequest.ofNode

/-! ## Sessions -/

/-- A sessions request of which some keys have been read. -/
structure SessionsDraft where
  filters : Option (List Filter)
  traceIds : Option (List String)
  sortBy : Option (Option String)
  sortDirection : Option (Option Direction)
  kept : Kept

/-- Takes in one member: an own key is read now, and any other is kept for later. -/
def SessionsDraft.put (d : SessionsDraft) (key : String) (n : Node) :
    Except ReadError SessionsDraft :=
  match key with
  | "filters" => do return { d with filters := ← once d.filters key (requestFilters n) }
  | "traceIds" => do return { d with traceIds := ← once d.traceIds key n.readStrings }
  | "sortBy" => do return { d with sortBy := ← once d.sortBy key (requestText n) }
  | "sortDirection" => do
    return { d with sortDirection := ← once d.sortDirection key (requestDirection n) }
  | _ => do return { d with kept := ← d.kept.put key n }

/-- The request in a node, its shared keys in the same order as for spans. -/
def SessionsRequest.ofNode (n : Node) : Except ReadError SessionsRequest := do
  let d ← readRequest .sessionsRequest SessionsDraft.put ⟨none, none, none, none, []⟩ n
  let time ← d.kept.readTime
  let page ← d.kept.readPage
  return {
    filters := d.filters.getD []
    traceIds := d.traceIds.getD []
    time
    sortBy := d.sortBy.join
    sortDirection := d.sortDirection.join
    page }

/-- The sessions request in a text. -/
def SessionsRequest.ofText (text : String) : Except ReadError SessionsRequest :=
  (Document.ofText text).read SessionsRequest.ofNode

/-! ## Evaluations -/

/-- An evaluation request of which some keys have been read. -/
structure EvalDraft where
  evaluationId : Option String
  targetId : Option (Option String)
  scoreNames : Option (List String)
  filters : Option (List Filter)
  traceIds : Option (List String)
  sortBy : Option (Option String)
  sortDirection : Option (Option Direction)
  kept : Kept

/-- Takes in one member.  There is no time selection here, so its keys are as unknown as any other. -/
def EvalDraft.put (d : EvalDraft) (key : String) (n : Node) : Except ReadError EvalDraft :=
  match key with
  | "evaluationId" => do return { d with evaluationId := ← once d.evaluationId key n.readString }
  | "targetId" => do return { d with targetId := ← once d.targetId key (requestText n) }
  | "scoreNames" => do return { d with scoreNames := ← once d.scoreNames key n.readStrings }
  | "filters" => do return { d with filters := ← once d.filters key (requestFilters n) }
  | "traceIds" => do return { d with traceIds := ← once d.traceIds key n.readStrings }
  | "sortBy" => do return { d with sortBy := ← once d.sortBy key (requestText n) }
  | "sortDirection" => do
    return { d with sortDirection := ← once d.sortDirection key (requestDirection n) }
  | _ => do return { d with kept := ← d.kept.put key n }

/-- The request in a node; only the id of the run is required, and it is missed before paging is looked at. -/
def EvalRequest.ofNode (n : Node) : Except ReadError EvalRequest := do
  let d ← readRequest .evalRequest EvalDraft.put ⟨none, none, none, none, none, none, none, []⟩ n
  let evaluationId ← required "evaluationId" d.evaluationId
  let page ← d.kept.readPage
  return {
    evaluationId
    targetId := d.targetId.join
    scoreNames := d.scoreNames.getD []
    filters := d.filters.getD []
    traceIds := d.traceIds.getD []
    sortBy := d.sortBy.join
    sortDirection := d.sortDirection.join
    page }

/-- The evaluation request in a text. -/
def EvalRequest.ofText (text : String) : Except ReadError EvalRequest :=
  (Document.ofText text).read EvalRequest.ofNode

end TraceQuery
