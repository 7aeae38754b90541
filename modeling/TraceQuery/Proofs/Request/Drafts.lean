/-
  What a request is read into.

  A reader goes through the members of an object once and puts each value that it knows into a draft.
  Here the drafts are shown to be records in the sense of `Json.Record`, so that what is read of an
  object depends only on the values at each key, and not on the order of the members.

  1. **Drafts** (`FilterDraft.record`, `SpansDraft.record` and so on): each is a record, with its fields
     and a rest.  A filter passes over the keys that it does not know; the three requests keep them for
     later; the time selection and paging, which look through what was kept, leave them alone.
  2. **Complete** (`takes_filter`, `takes_direction` and so on): what is taken for a value of a request
     is complete.  So a text that is cut off is never taken for a request, wherever the cut is.
  3. **What is kept** (`members_of_readMembers`): the members with other keys, as they are.  What is read
     of them at the shared keys depends on the values at each key (`Kept.readTime_of_perm`,
     `Kept.readPage_of_perm`).

  The proofs that a draft is a record are alike: the fields are listed with their keys and readers, and
  each law is read off the list.  Only `other` looks at the function that puts a member, where it says
  that a key that is none of the listed ones falls through to the last case.

-/
import TraceQuery.Proofs.Json.Records
import TraceQuery.Request.Kind

namespace TraceQuery

open TraceQuery.Json

/-! ## Filters -/

/-- The parts of a filter, each under its key and with its reader. -/
def FilterDraft.fields (origin : Origin) : List (RecordField FilterDraft) :=
  [⟨"column", (·.column), ({ · with column := · }), Node.readString⟩,
    ⟨"operator", (·.operator), ({ · with operator := · }), Operator.ofNode⟩,
    ⟨"value", (·.value), ({ · with value := · }), FilterValue.ofNode origin⟩]

/-- The draft of a filter is a record that passes over the members under other keys. -/
theorem FilterDraft.record (origin : Origin) :
    Record (FilterDraft.put origin) (FilterDraft.fields origin) (fun _ => ()) (fun d _ => d)
      fun _ _ n => n.skip where
  nodup := by simp [fields, keysOf]
  own := by simp [fields, put]
  other := by
    intro key other s n
    unfold FilterDraft.put
    split
    case h_4 => rfl
    all_goals exact absurd (by simp [fields, keysOf]) other
  get_set := by simp [fields]
  get_set_of_ne := by simp [fields]
  rest_set := by simp [fields]
  get_setRest := by simp [fields]
  rest_setRest := fun _ _ => rfl
  ext := by
    rintro ⟨_, _, _⟩ ⟨_, _, _⟩ same _
    simpa [fields] using same

/-! ## Requests -/

/-- The members that a request for spans has of its own. -/
def SpansDraft.fields : List (RecordField SpansDraft) :=
  [⟨"spanIds", (·.spanIds), ({ · with spanIds := · }), Node.readStrings⟩,
    ⟨"traceIds", (·.traceIds), ({ · with traceIds := · }), Node.readStrings⟩,
    ⟨"filters", (·.filters), ({ · with filters := · }), requestFilters⟩,
    ⟨"sortBy", (·.sortBy), ({ · with sortBy := · }), requestText⟩,
    ⟨"sortDirection", (·.sortDirection), ({ · with sortDirection := · }), requestDirection⟩]

/-- The draft of a request for spans is a record that keeps the other members. -/
theorem SpansDraft.record :
    Record SpansDraft.put SpansDraft.fields SpansDraft.kept (fun d kept => { d with kept })
      Kept.put where
  nodup := by simp [fields, keysOf]
  own := by simp [fields, put]
  other := by
    intro key other s n
    unfold SpansDraft.put
    split
    case h_6 => rfl
    all_goals exact absurd (by simp [fields, keysOf]) other
  get_set := by simp [fields]
  get_set_of_ne := by simp [fields]
  rest_set := by simp [fields]
  get_setRest := by simp [fields]
  rest_setRest := fun _ _ => rfl
  ext := by
    rintro ⟨_, _, _, _, _, k⟩ ⟨_, _, _, _, _, k'⟩ same (kept : k = k')
    simpa [fields, kept] using same

/-- The members that a request for sessions has of its own; it selects by traces but not by spans. -/
def SessionsDraft.fields : List (RecordField SessionsDraft) :=
  [⟨"filters", (·.filters), ({ · with filters := · }), requestFilters⟩,
    ⟨"traceIds", (·.traceIds), ({ · with traceIds := · }), Node.readStrings⟩,
    ⟨"sortBy", (·.sortBy), ({ · with sortBy := · }), requestText⟩,
    ⟨"sortDirection", (·.sortDirection), ({ · with sortDirection := · }), requestDirection⟩]

/-- The draft of a request for sessions is a record that keeps the other members. -/
theorem SessionsDraft.record :
    Record SessionsDraft.put SessionsDraft.fields SessionsDraft.kept (fun d kept => { d with kept })
      Kept.put where
  nodup := by simp [fields, keysOf]
  own := by simp [fields, put]
  other := by
    intro key other s n
    unfold SessionsDraft.put
    split
    case h_5 => rfl
    all_goals exact absurd (by simp [fields, keysOf]) other
  get_set := by simp [fields]
  get_set_of_ne := by simp [fields]
  rest_set := by simp [fields]
  get_setRest := by simp [fields]
  rest_setRest := fun _ _ => rfl
  ext := by
    rintro ⟨_, _, _, _, k⟩ ⟨_, _, _, _, k'⟩ same (kept : k = k')
    simpa [fields, kept] using same

/-- The members that a request for an evaluation has of its own. -/
def EvalDraft.fields : List (RecordField EvalDraft) :=
  [⟨"evaluationId", (·.evaluationId), ({ · with evaluationId := · }), Node.readString⟩,
    ⟨"targetId", (·.targetId), ({ · with targetId := · }), requestText⟩,
    ⟨"scoreNames", (·.scoreNames), ({ · with scoreNames := · }), Node.readStrings⟩,
    ⟨"filters", (·.filters), ({ · with filters := · }), requestFilters⟩,
    ⟨"traceIds", (·.traceIds), ({ · with traceIds := · }), Node.readStrings⟩,
    ⟨"sortBy", (·.sortBy), ({ · with sortBy := · }), requestText⟩,
    ⟨"sortDirection", (·.sortDirection), ({ · with sortDirection := · }), requestDirection⟩]

/-- The draft of a request for an evaluation is a record that keeps the other members. -/
theorem EvalDraft.record :
    Record EvalDraft.put EvalDraft.fields EvalDraft.kept (fun d kept => { d with kept })
      Kept.put where
  nodup := by simp [fields, keysOf]
  own := by simp [fields, put]
  other := by
    intro key other s n
    unfold EvalDraft.put
    split
    case h_8 => rfl
    all_goals exact absurd (by simp [fields, keysOf]) other
  get_set := by simp [fields]
  get_set_of_ne := by simp [fields]
  rest_set := by simp [fields]
  get_setRest := by simp [fields]
  rest_setRest := fun _ _ => rfl
  ext := by
    rintro ⟨_, _, _, _, _, _, _, k⟩ ⟨_, _, _, _, _, _, _, k'⟩ same (kept : k = k')
    simpa [fields, kept] using same

/-! ## Shared keys -/

/-- A time selection of which some keys have been read: the hours, the start and the end. -/
abbrev TimeDraft := Option (Option String) × Option (Option String) × Option (Option String)

/-- Puts a member where its key says; a key that is no part of a time selection changes nothing. -/
def TimeDraft.put (d : TimeDraft) (key : String) (n : Node) : Except ReadError TimeDraft :=
  match key with
  | "pastHours" => do return (← once d.1 key (requestText n), d.2)
  | "startDate" => do return (d.1, ← once d.2.1 key (requestText n), d.2.2)
  | "endDate" => do return (d.1, d.2.1, ← once d.2.2 key (requestText n))
  | _ => .ok d

theorem Kept.readTime_eq (kept : Kept) : kept.readTime = (do
    let d ← Node.readMembers TimeDraft.put true (none, none, none) kept.members
    return ⟨d.1.join, d.2.1.join, d.2.2.join⟩) := rfl

/-- The parts of a time selection, which are texts that may be null. -/
def TimeDraft.fields : List (RecordField TimeDraft) :=
  [⟨"pastHours", (·.1), fun d a => (a, d.2), requestText⟩,
    ⟨"startDate", (·.2.1), fun d a => (d.1, a, d.2.2), requestText⟩,
    ⟨"endDate", (·.2.2), fun d a => (d.1, d.2.1, a), requestText⟩]

/-- The draft of a time selection is a record that leaves the other members alone. -/
theorem TimeDraft.record :
    Record TimeDraft.put TimeDraft.fields (fun _ => ()) (fun d _ => d) fun _ _ _ => .ok () where
  nodup := by simp [fields, keysOf]
  own := by simp [fields, put]
  other := by
    intro key other s n
    unfold TimeDraft.put
    split
    case h_4 => rfl
    all_goals exact absurd (by simp [fields, keysOf]) other
  get_set := by simp [fields]
  get_set_of_ne := by simp [fields]
  rest_set := by simp [fields]
  get_setRest := by simp [fields]
  rest_setRest := fun _ _ => rfl
  ext := by
    rintro ⟨_, _, _⟩ ⟨_, _, _⟩ same _
    simpa [fields] using same

/-- A count or null as a member of a request. -/
def requestCount : Node → Except ReadError (Option Nat) := Node.readOptional (Node.readCount .count)

/-- The parts of paging, which are counts that may be null. -/
def PageDraft.fields : List (RecordField PageDraft) :=
  [⟨"pageNumber", (·.pageNumber), ({ · with pageNumber := · }), requestCount⟩,
    ⟨"pageSize", (·.pageSize), ({ · with pageSize := · }), requestCount⟩,
    ⟨"limit", (·.limit), ({ · with limit := · }), requestCount⟩,
    ⟨"offset", (·.offset), ({ · with offset := · }), requestCount⟩]

/-- The draft of paging is a record that leaves the other members alone. -/
theorem PageDraft.record :
    Record PageDraft.put PageDraft.fields (fun _ => ()) (fun d _ => d) fun _ _ _ => .ok () where
  nodup := by simp [fields, keysOf]
  own := by simp [fields, put, requestCount]
  other := by
    intro key other s n
    unfold PageDraft.put
    split
    case h_5 => rfl
    all_goals exact absurd (by simp [fields, keysOf]) other
  get_set := by simp [fields]
  get_set_of_ne := by simp [fields]
  rest_set := by simp [fields]
  get_setRest := by simp [fields]
  rest_setRest := fun _ _ => rfl
  ext := by
    rintro ⟨_, _, _, _⟩ ⟨_, _, _, _⟩ same _
    simpa [fields] using same

/-! ## Complete nodes -/

theorem takes_operator : Takes Operator.ofNode := by
  intro n op h
  obtain ⟨name, hname, _⟩ := bind_eq_ok h
  exact takes_readString n name hname

theorem takes_filterValue (origin : Origin) : Takes (FilterValue.ofNode origin) := by
  intro n value h
  obtain ⟨_, _, h⟩ := bind_eq_ok h
  split at h
  · rfl
  · rfl
  · cases h

/-- The next item is the first one that is left. -/
theorem nextItem_eq_ok {kind : RecordKind} {index : Nat} {closed : Bool} {items rest : List Node}
    {n : Node} (h : Node.nextItem kind index closed items = .ok (n, rest)) : items = n :: rest := by
  cases items with
  | nil => cases h
  | cons m items =>
    cases h
    rfl

/-- A filter written as an array is complete. -/
theorem isComplete_of_ofItems {depth : Nat} {items : List Node} {closed : Bool} {f : Filter}
    (h : Filter.ofItems (.text depth) items closed = .ok f) :
    (Node.array items closed).isComplete = true := by
  obtain ⟨⟨column, behindColumn⟩, first, h⟩ := bind_eq_ok h
  obtain ⟨c, readColumn, h⟩ := bind_eq_ok h
  obtain ⟨⟨operator, behindOperator⟩, second, h⟩ := bind_eq_ok h
  obtain ⟨op, readOperator, h⟩ := bind_eq_ok h
  obtain ⟨⟨value, left⟩, third, h⟩ := bind_eq_ok h
  obtain ⟨v, readValue, h⟩ := bind_eq_ok h
  obtain ⟨_, ended, _⟩ := bind_eq_ok h
  -- all items are read: nothing is left behind the third, and the array is closed
  have none : left = [] ∧ closed = true := by simpa [Node.endOfItems] using ended
  rw [nextItem_eq_ok first, nextItem_eq_ok second, nextItem_eq_ok third, none.1, none.2]
  simp [Node.isComplete, itemsComplete, takes_readString _ _ readColumn,
    takes_operator _ _ readOperator, takes_filterValue _ _ _ readValue]

/-- What is read as a filter is complete, be it an object or an array. -/
theorem takes_filter (depth : Nat) : Takes (Filter.ofNode (.text depth)) := by
  intro n f h
  unfold Filter.ofNode at h
  split at h
  · obtain ⟨d, read, _⟩ := bind_eq_ok h
    -- an object: its parts are complete as they are read, the other members as they are skipped
    refine (FilterDraft.record (.text (depth + 1))).isComplete ?_ ?_ read
    · simp [FilterDraft.fields, takes_readString, takes_operator, takes_filterValue]
    · intro _ _ n _ skipped
      unfold Node.skip at skipped
      split at skipped
      · assumption
      · cases skipped
  · exact isComplete_of_ofItems h
  · cases h

/-- What is read as a direction is complete: a text, or an object with its name and a null in it. -/
theorem takes_direction (depth : Nat) : Takes (Direction.ofNode (.text depth)) := by
  intro n direction h
  unfold Direction.ofNode at h
  split at h
  · rfl
  · obtain ⟨_, _, h⟩ := bind_eq_ok h
    obtain ⟨_, hunit, h⟩ := bind_eq_ok h
    unfold readUnit at hunit
    split at hunit
    · split at h
      · rename_i none
        rw [Bool.and_eq_true, List.isEmpty_iff] at none
        rw [none.1, none.2]
        rfl
      · cases h
    · cases hunit
  all_goals contradiction

theorem takes_strings : Takes Node.readStrings := takes_readString.readList

theorem takes_requestFilters : Takes requestFilters := (takes_filter 2).readList

theorem takes_requestText : Takes requestText := takes_readString.readOptional

theorem takes_requestDirection : Takes requestDirection := (takes_direction 1).readOptional

/-! ## What is kept -/

/-- A member that can be kept. -/
def Keepable (m : Node × Node) : Prop :=
  m.1.key?.isSome = true ∧ m.2.isReadable = true ∧ m.2.depth < maxDepth

/-- A member is kept if its value is readable and not too deep, and comes before those kept so far. -/
theorem Kept.put_eq_ok {kept kept' : Kept} {key : String} {n : Node} :
    kept.put key n = .ok kept' ↔
      (n.isReadable = true ∧ n.depth < maxDepth) ∧ kept' = (key, n) :: kept := by
  constructor
  · intro h
    obtain ⟨_, whole, h⟩ := bind_eq_ok h
    obtain ⟨readable, depth⟩ := whole_text_eq_ok.mp whole
    exact ⟨⟨readable, by simp only [maxDepth] at depth ⊢; omega⟩, (Except.ok.inj h).symm⟩
  · rintro ⟨⟨readable, depth⟩, rfl⟩
    have whole : n.whole (.text 1) = .ok () :=
      whole_text_eq_ok.mpr ⟨readable, by simp only [maxDepth] at depth ⊢; omega⟩
    show (n.whole (.text 1)).bind _ = _
    rw [whole]
    rfl

theorem Kept.members_cons (kept : Kept) (key : String) (n : Node) :
    Kept.members ((key, n) :: kept) = kept.members ++ [(.scalar (.string key), n)] := by
  simp [Kept.members]

section Kept

variable {closed : Bool} {kept kept' : Kept} {members : List (Node × Node)}

/-- What is kept are the members themselves. -/
theorem members_of_readMembers
    (read : Node.readMembers Kept.put closed kept members = .ok kept') :
    (∀ m ∈ members, Keepable m) ∧ kept'.members = kept.members ++ members := by
  induction members generalizing kept with
  | nil =>
    obtain ⟨_, rfl⟩ := readMembers_nil.mp read
    simp
  | cons m members ih =>
    obtain ⟨k, n⟩ := m
    obtain ⟨key, _, name, hput, read⟩ := readMembers_cons.mp read
    obtain ⟨keepable, rfl⟩ := Kept.put_eq_ok.mp hput
    obtain ⟨rest, same⟩ := ih read
    refine ⟨List.forall_mem_cons.mpr ⟨⟨by rw [name]; rfl, keepable⟩, rest⟩, ?_⟩
    rw [same, Kept.members_cons, List.append_assoc, eq_of_key?_eq_some name]
    rfl

/-- Members that can be kept are kept, whatever was kept before. -/
theorem exists_readMembers (kept : Kept) (all : ∀ m ∈ members, Keepable m) :
    ∃ kept', Node.readMembers Kept.put true kept members = .ok kept' := by
  induction members generalizing kept with
  | nil => exact ⟨kept, rfl⟩
  | cons m members ih =>
    obtain ⟨k, n⟩ := m
    obtain ⟨⟨some, keepable⟩, rest⟩ := List.forall_mem_cons.mp all
    obtain ⟨key, name⟩ := Option.isSome_iff_exists.mp some
    obtain ⟨kept', read⟩ := ih ((key, n) :: kept) rest
    exact ⟨kept', readMembers_cons.mpr ⟨key, _, name, Kept.put_eq_ok.mpr ⟨keepable, rfl⟩, read⟩⟩

theorem isSome_key?_of_mem_members {m : Node × Node} (h : m ∈ kept.members) :
    m.1.key?.isSome = true := by
  obtain ⟨_, _, rfl⟩ := List.mem_map.mp h
  rfl

/-- Members that are let be. -/
theorem readMembers_ok {members : List (Node × Node)} (all : ∀ m ∈ members, m.1.key?.isSome = true) :
    Node.readMembers (fun _ _ _ => .ok ()) true () members = .ok () := by
  induction members with
  | nil => rfl
  | cons m members ih =>
    obtain ⟨some, rest⟩ := List.forall_mem_cons.mp all
    obtain ⟨key, name⟩ := Option.isSome_iff_exists.mp some
    exact readMembers_cons.mpr ⟨key, (), name, rfl, ih rest⟩

/-- What is read of the kept members depends on the values at each key. -/
theorem Json.Record.readMembers_kept {σ : Type} {put : σ → String → Node → Except ReadError σ}
    {fields : List (RecordField σ)} {setRest : σ → Unit → σ} {s d : σ}
    (record : Record put fields (fun _ => ()) setRest fun _ _ _ => .ok ())
    (fresh : ∀ f ∈ fields, f.get s = none)
    (same : ∀ key ∈ keysOf fields,
      (valuesAt key kept.members).Perm (valuesAt key kept'.members))
    (read : Node.readMembers put true s kept.members = .ok d) :
    Node.readMembers put true s kept'.members = .ok d := by
  obtain ⟨held, _⟩ := record.held_of_readMembers read
  refine record.readMembers_of_held (fun f hf => ?_) (readMembers_ok fun m hm => ?_)
  · -- each field has read its only value, if there is one; there is the same one now
    have before := held f hf
    rw [fresh f hf] at before ⊢
    exact before.perm (same f.key (List.mem_map_of_mem hf))
  · exact isSome_key?_of_mem_members (List.mem_filter.mp hm).1

/-- The keys of a time selection, which requests for spans and sessions share. -/
def timeKeys : List String := ["pastHours", "startDate", "endDate"]

/-- The keys of paging, which all requests share. -/
def pageKeys : List String := ["pageNumber", "pageSize", "limit", "offset"]

/-- The time selection is the same if there are the same values at each of its keys. -/
theorem Kept.readTime_of_perm {time : TimeInput}
    (same : ∀ key ∈ timeKeys, (valuesAt key kept.members).Perm (valuesAt key kept'.members))
    (read : kept.readTime = .ok time) : kept'.readTime = .ok time := by
  rw [Kept.readTime_eq] at read ⊢
  obtain ⟨d, read, finished⟩ := bind_eq_ok read
  have read' := TimeDraft.record.readMembers_kept (by simp [TimeDraft.fields]) same read
  show (Node.readMembers TimeDraft.put true (none, none, none) kept'.members).bind _ = _
  rw [read']
  exact finished

theorem Kept.readPage_of_perm {page : PageInput}
    (same : ∀ key ∈ pageKeys, (valuesAt key kept.members).Perm (valuesAt key kept'.members))
    (read : kept.readPage = .ok page) : kept'.readPage = .ok page := by
  obtain ⟨d, read, finished⟩ := bind_eq_ok read
  have read' := PageDraft.record.readMembers_kept (by simp [PageDraft.fields]) same read
  show (Node.readMembers PageDraft.put true ⟨none, none, none, none⟩ kept'.members).bind _ = _
  rw [read']
  exact finished

end Kept

end TraceQuery
