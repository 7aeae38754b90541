/-
  Requests whose text is arranged in another way.

  1. **Rearranging** (`Rearranged`): the members of a request come in another order, and so do those of
     each of its filters; there may be more of them, under keys that nobody knows.  What is added to a
     request has to be readable, as it is kept for a while; what is added to a filter is passed over
     and has to be complete.
  2. **Values** (`Rearranged.valuesAt`): at a known key there are the same values as before in any order,
     up to the filters, which are read as before (`steady_filters`).
  3. **Requests** (`RequestDraft.rearranged`): what a request is read into is the same up to what is
     kept, in which the shared keys have the same values.  So each of the three requests is the same.
  4. **Texts** (`buildQuery_rearranged`): a text from which a query is built is that of an object, and
     the same query is built from any text of it and of its rearrangements.
-/
import Mathlib.Data.List.Forall2
import TraceQuery.Proofs.Json.Documents
import TraceQuery.Proofs.Request.Drafts
import TraceQuery.Proofs.View.Typing

namespace TraceQuery

open TraceQuery.Json

/-! ## Rearranging -/

/-- The same members in any order, with more of them. -/
def Extended (extra : String → Node → Prop) (members members' : List (Node × Node)) : Prop :=
  ∃ more, (∀ m ∈ more, ∃ key, m.1 = .scalar (.string key) ∧ extra key m.2) ∧
    (members ++ more).Perm members'

/-- The keys of the parts of a filter. -/
def filterKeys : List String := ["column", "operator", "value"]

/-- A filter written in another order, with other keys beside its own. -/
inductive SameFilter : Node → Node → Prop where
  | same (n : Node) : SameFilter n n
  | object {members members' : List (Node × Node)} :
    Extended (fun key n => key ∉ filterKeys ∧ n.isComplete = true) members members' →
      SameFilter (.object members true) (.object members' true)

/-- A member as before, or the filters of a request with some of them written in another way. -/
inductive SameMember : Node × Node → Node × Node → Prop where
  | same (m : Node × Node) : SameMember m m
  | filters {items items' : List Node} : List.Forall₂ SameFilter items items' →
    SameMember (.scalar (.string "filters"), .array items true)
      (.scalar (.string "filters"), .array items' true)

/-- The members of a request in another order, with values beside them under keys that are not known. -/
def Rearranged (known : List String) (members members' : List (Node × Node)) : Prop :=
  ∃ mid, List.Forall₂ SameMember members mid ∧
    Extended (fun key n => key ∉ known ∧ n.isReadable = true ∧ n.depth < maxDepth) mid members'

/-- The keys that a kind of query knows; an evaluation is not selected by time. -/
def QueryKind.knownKeys : QueryKind → List String
  | .spans | .spansCount =>
    ["spanIds", "traceIds", "filters", "sortBy", "sortDirection"] ++ timeKeys ++ pageKeys
  | .sessions | .sessionsCount =>
    ["filters", "traceIds", "sortBy", "sortDirection"] ++ timeKeys ++ pageKeys
  | .eval | .evalStats | .evalCount =>
    ["evaluationId", "targetId", "scoreNames", "filters", "traceIds", "sortBy", "sortDirection"] ++
      pageKeys

/-! ## Values at a key -/

/-- A value as before, or the filters of a request with some of them written in another way. -/
inductive SameValue (key : String) : Node → Node → Prop where
  | same (n : Node) : SameValue key n n
  | filters {items items' : List Node} : key = "filters" → List.Forall₂ SameFilter items items' →
    SameValue key (.array items true) (.array items' true)

section Values

variable {members members' more mid : List (Node × Node)} {key : String} {known own : List String}

/-- There are no values at a key that no member has. -/
theorem valuesAt_eq_nil (none : ∀ m ∈ members, m.1.key? ≠ some key) : valuesAt key members = [] :=
  List.filterMap_eq_nil_iff.mpr fun m hm => if_neg (none m hm)

/-- At a key that no added member may have there are the same values, in any order. -/
theorem Extended.valuesAt {extra : String → Node → Prop} (h : Extended extra members members')
    (none : ∀ n, ¬extra key n) : (valuesAt key members).Perm (valuesAt key members') := by
  obtain ⟨more, extras, perm⟩ := h
  have empty : Json.valuesAt key more = [] := by
    refine valuesAt_eq_nil fun m hm same => ?_
    obtain ⟨key', name, extra⟩ := extras m hm
    rw [name] at same
    cases same
    exact none _ extra
  have same := perm.filterMap fun m => if m.1.key? = some key then some m.2 else Option.none
  rwa [List.filterMap_append, show List.filterMap _ more = [] from empty, List.append_nil] at same

/-- What holds of the members with other keys holds of those that come to them. -/
theorem Extended.beside {extra : String → Node → Prop} {P : Node × Node → Prop}
    (h : Extended extra members members') (added : ∀ key n, extra key n → P (.scalar (.string key), n))
    (all : ∀ m ∈ membersBeside own members, P m) : ∀ m ∈ membersBeside own members', P m := by
  obtain ⟨more, extras, perm⟩ := h
  intro m hm
  obtain ⟨mem, beside⟩ := List.mem_filter.mp hm
  rcases List.mem_append.mp (perm.mem_iff.mpr mem) with old | new
  · exact all m (List.mem_filter.mpr ⟨old, beside⟩)
  · obtain ⟨key, name, extra⟩ := extras m new
    have := added key m.2 extra
    rwa [← name] at this

/-- Members that are the same up to their filters have such values at each key. -/
theorem forall₂_valuesAt (h : List.Forall₂ SameMember members mid) :
    List.Forall₂ (SameValue key) (valuesAt key members) (valuesAt key mid) := by
  induction h with
  | nil => exact .nil
  | @cons m m' ms ms' same rest ih =>
    cases same with
    | same =>
      by_cases here : m.1.key? = some key
      · simpa [valuesAt, here] using ⟨SameValue.same m.2, ih⟩
      · simpa [valuesAt, here] using ih
    | filters alike =>
      by_cases here : key = "filters"
      · subst here
        simpa [valuesAt, Node.key?] using ⟨SameValue.filters rfl alike, ih⟩
      · simpa [valuesAt, Node.key?, Ne.symm here] using ih

/-- Only filters are written in another way. -/
theorem eq_of_forall₂ {xs ys : List Node} (ne : key ≠ "filters")
    (h : List.Forall₂ (SameValue key) xs ys) : xs = ys := by
  induction h with
  | nil => rfl
  | cons same _ ih =>
    cases same with
    | same => rw [ih]
    | filters here _ => exact absurd here ne

/-- The members beside the own ones are the same, if the filters are among the own ones. -/
theorem membersBeside_eq (filters : "filters" ∈ own) (h : List.Forall₂ SameMember members mid) :
    membersBeside own members = membersBeside own mid := by
  induction h with
  | nil => rfl
  | @cons m m' ms ms' same _ ih =>
    cases same with
    | same =>
      rw [membersBeside, membersBeside] at ih ⊢
      rw [List.filter_cons, List.filter_cons, ih]
    | filters => rwa [membersBeside_cons_of_mem rfl filters, membersBeside_cons_of_mem rfl filters]

/-- A key that is not an own one has all of its values beside. -/
theorem valuesAt_membersBeside (other : key ∉ own) :
    valuesAt key (membersBeside own members) = valuesAt key members := by
  rw [valuesAt, membersBeside, List.filterMap_filter]
  refine List.filterMap_congr fun m _ => ?_
  by_cases here : m.1.key? = some key
  · simp [here, other]
  · simp [here]

/-- At a known key there are the same values in any order. -/
theorem Rearranged.valuesAt (h : Rearranged known members members') (hkey : key ∈ known) :
    ∃ mid, List.Forall₂ (SameValue key) (valuesAt key members) mid ∧
      mid.Perm (valuesAt key members') := by
  obtain ⟨mid, same, extended⟩ := h
  exact ⟨_, forall₂_valuesAt same, extended.valuesAt fun n extra => extra.1 hkey⟩

end Values

/-! ## Fields -/

section Held

variable {α : Type} {read : Node → Except ReadError α} {a : Option α} {xs ys : List Node} {key : String}

/-- A reader for a key that reads filters as before when they are written in another way. -/
def Steady (key : String) (read : Node → Except ReadError α) : Prop :=
  ∀ n n' a, SameValue key n n' → read n = .ok a → read n' = .ok a

/-- At any other key than that of the filters nothing has changed, so every reader is steady. -/
theorem steady_of_ne (ne : key ≠ "filters") : Steady key read := by
  intro n n' a same hread
  cases same with
  | same => exact hread
  | filters here _ => exact absurd here ne

/-- A field holds the same after its values have been written in another way and rearranged. -/
theorem Json.Held.steady (held : Held read none xs a) (steady : Steady key read) {mid : List Node}
    (same : List.Forall₂ (SameValue key) xs mid) (perm : mid.Perm ys) : Held read none ys a := by
  refine Held.perm ?_ perm
  -- at most one value is read at a key: none at all, or one and nothing else
  rcases held_none.mp held with ⟨rfl, rfl⟩ | ⟨n, b, rfl, hread, rfl⟩
  · cases same
    exact held
  · cases same with
    | cons same rest =>
      cases rest
      exact held_none.mpr (.inr ⟨_, b, rfl, steady _ _ b same hread, rfl⟩)

end Held

/-! ## Filters -/

theorem skip_eq_ok {n : Node} {u : Unit} : n.skip = .ok u ↔ n.isComplete = true := by
  unfold Node.skip
  split <;> simp [*]

/-- Members that are passed over. -/
theorem readMembers_skip {closed : Bool} {u u' : Unit} {members : List (Node × Node)} :
    Node.readMembers (fun _ _ n => n.skip) closed u members = .ok u' ↔
      closed = true ∧ ∀ m ∈ members, m.1.key?.isSome = true ∧ m.2.isComplete = true := by
  induction members generalizing u with
  | nil => simp [readMembers_nil]
  | cons m members ih =>
    obtain ⟨k, n⟩ := m
    rw [readMembers_cons, List.forall_mem_cons]
    constructor
    · rintro ⟨key, _, name, skipped, read⟩
      obtain ⟨hclosed, rest⟩ := ih.mp read
      exact ⟨hclosed, ⟨by rw [name]; rfl, skip_eq_ok.mp skipped⟩, rest⟩
    · rintro ⟨hclosed, ⟨some, complete⟩, rest⟩
      obtain ⟨key, name⟩ := Option.isSome_iff_exists.mp some
      exact ⟨key, u, name, skip_eq_ok.mpr complete, ih.mpr ⟨hclosed, rest⟩⟩

/-- A filter written in another way is read as the same filter. -/
theorem SameFilter.ofNode {origin : Origin} {n n' : Node} {f : Filter} (h : SameFilter n n')
    (read : Filter.ofNode origin n = .ok f) : Filter.ofNode origin n' = .ok f := by
  cases h with
  | same => exact read
  | @object members members' extended =>
    obtain ⟨d, read, finished⟩ := bind_eq_ok read
    have record := FilterDraft.record origin.inside
    obtain ⟨held, left⟩ := record.held_of_readMembers read
    have fresh : ∀ g ∈ FilterDraft.fields origin.inside, g.get ⟨none, none, none⟩ = none := by
      simp [FilterDraft.fields]
    have read' : Node.readMembers (FilterDraft.put origin.inside) true ⟨none, none, none⟩ members' =
        .ok d := by
      refine record.readMembers_of_held (fun g hg => ?_) (readMembers_skip.mpr ⟨rfl, ?_⟩)
      · -- a part of the filter: its key is known, so nothing was added there
        have known : g.key ∈ filterKeys := List.mem_map_of_mem hg
        have before := held g hg
        rw [fresh g hg] at before ⊢
        exact before.perm (extended.valuesAt fun n extra => extra.1 known)
      · -- the others: those that came to them are complete, as `SameFilter` asks
        exact extended.beside (fun key n extra => ⟨rfl, extra.2⟩) (readMembers_skip.mp left).2
    show (Node.readMembers (FilterDraft.put origin.inside) true ⟨none, none, none⟩ members').bind _ = _
    rw [read']
    exact finished

/-- Filters are read as before when some are written in another way. -/
theorem steady_filters : Steady "filters" requestFilters := by
  intro n n' fs same read
  cases same with
  | same => exact read
  | @filters items items' _ alike =>
    replace read : Node.readItems (Filter.ofNode (.text 2)) true items = .ok fs := read
    show Node.readItems (Filter.ofNode (.text 2)) true items' = .ok fs
    -- filter by filter; each is read as the same one
    induction alike generalizing fs with
    | nil => exact read
    | cons alike _ ih =>
      obtain ⟨f, gs, first, rest, rfl⟩ := readItems_cons.mp read
      exact readItems_cons.mpr ⟨f, gs, alike.ofNode first, ih gs rest, rfl⟩

/-! ## Requests -/

/-- A draft that a request is read into: a record that keeps what is not its own, also the keys that are
    shared, and has the filters among its fields. -/
structure RequestDraft {σ : Type} (put : σ → String → Node → Except ReadError σ)
    (fields : List (RecordField σ)) (kept : σ → Kept) (setKept : σ → Kept → σ) (start : σ)
    (shared : List String) : Prop where
  /-- It reads its fields and keeps the rest. -/
  record : Record put fields kept setKept Kept.put
  /-- Nothing has been read at the start, -/
  fresh : ∀ f ∈ fields, f.get start = none
  /-- and nothing has been kept. -/
  empty : kept start = []
  /-- The filters are among its fields. -/
  filters : "filters" ∈ keysOf fields
  /-- The shared keys are not its own, so it keeps their members. -/
  apart : ∀ key ∈ shared, key ∉ keysOf fields
  /-- Each reader gives the same when filters are written in another way, -/
  steady : ∀ f ∈ fields, Steady f.key f.read
  /-- and takes only what is complete. -/
  takes : ∀ f ∈ fields, Takes f.read

namespace RequestDraft

variable {σ : Type} {put : σ → String → Node → Except ReadError σ} {fields : List (RecordField σ)}
  {kept : σ → Kept} {setKept : σ → Kept → σ} {start d : σ} {shared : List String}

/-- The draft is the same after the members have been rearranged, up to what is kept; of that, there are
    the same values at each shared key. -/
theorem rearranged {members members' : List (Node × Node)}
    (draft : RequestDraft put fields kept setKept start shared)
    (h : Rearranged (keysOf fields ++ shared) members members')
    (read : Node.readMembers put true start members = .ok d) :
    ∃ kept', Node.readMembers put true start members' = .ok (setKept d kept') ∧
      ∀ key ∈ shared, (valuesAt key (kept d).members).Perm (valuesAt key kept'.members) := by
  obtain ⟨held, left⟩ := draft.record.held_of_readMembers read
  obtain ⟨keepable, members_kept⟩ := members_of_readMembers left
  have keepable' : ∀ m ∈ membersBeside (keysOf fields) members', Keepable m := by
    -- the filters are a field, so nothing beside the fields is written in another way
    obtain ⟨mid, same, extended⟩ := h
    rw [membersBeside_eq draft.filters same] at keepable
    exact extended.beside (fun key n extra => ⟨rfl, extra.2⟩) keepable
  obtain ⟨kept', left'⟩ := exists_readMembers [] keepable'
  have members_kept' := (members_of_readMembers left').2
  refine ⟨kept', draft.record.readMembers_of_held (fun f hf => ?_) ?_, fun key hkey => ?_⟩
  · have before := held f hf
    obtain ⟨mid, same, perm⟩ := h.valuesAt (List.mem_append_left _ (List.mem_map_of_mem hf))
    rw [draft.fresh f hf] at before ⊢
    rw [draft.record.get_setRest f hf]
    exact before.steady (draft.steady f hf) same perm
  · rw [draft.record.rest_setRest, draft.empty]
    exact left'
  · -- a shared key is no field's, so its values are among what is kept
    have other := draft.apart key hkey
    obtain ⟨mid, same, perm⟩ := h.valuesAt (List.mem_append_right _ hkey)
    have ne : key ≠ "filters" := fun e => other (e ▸ draft.filters)
    rw [← eq_of_forall₂ ne same] at perm
    rw [members_kept, members_kept', draft.empty]
    show (valuesAt key (membersBeside _ members)).Perm (valuesAt key (membersBeside _ members'))
    rwa [valuesAt_membersBeside other, valuesAt_membersBeside other]

/-- A request is a complete object. -/
theorem exists_members {kind : RecordKind} {n : Node}
    (draft : RequestDraft put fields kept setKept start shared)
    (read : readRequest kind put start n = .ok d) :
    ∃ members, n = .object members true ∧ n.isComplete = true := by
  unfold readRequest at read
  split at read
  · rename_i members closed
    have complete : (Node.object members closed).isComplete = true :=
      draft.record.isComplete draft.takes (fun _ _ n _ hput =>
        isComplete_of_isReadable n (Kept.put_eq_ok.mp hput).1.1) read
    have isClosed : closed = true := by
      rw [Node.isComplete, Bool.and_eq_true] at complete
      exact complete.2
    exact ⟨members, by rw [isClosed], complete⟩
  · cases read

end RequestDraft

/-- The draft of a request for spans shares the keys of time and of paging. -/
theorem SpansDraft.requestDraft : RequestDraft SpansDraft.put SpansDraft.fields SpansDraft.kept
    ({ · with kept := · }) ⟨none, none, none, none, none, []⟩ (timeKeys ++ pageKeys) where
  record := SpansDraft.record
  fresh := by simp [fields]
  empty := rfl
  filters := by decide
  apart := by decide
  steady := by simp [fields, steady_of_ne, steady_filters]
  takes := by
    simp [fields, takes_strings, takes_requestFilters, takes_requestText, takes_requestDirection]

theorem SessionsDraft.requestDraft : RequestDraft SessionsDraft.put SessionsDraft.fields
    SessionsDraft.kept ({ · with kept := · }) ⟨none, none, none, none, []⟩ (timeKeys ++ pageKeys) where
  record := SessionsDraft.record
  fresh := by simp [fields]
  empty := rfl
  filters := by decide
  apart := by decide
  steady := by simp [fields, steady_of_ne, steady_filters]
  takes := by
    simp [fields, takes_strings, takes_requestFilters, takes_requestText, takes_requestDirection]

/-- The draft of a request for an evaluation shares only the keys of paging. -/
theorem EvalDraft.requestDraft : RequestDraft EvalDraft.put EvalDraft.fields EvalDraft.kept
    ({ · with kept := · }) ⟨none, none, none, none, none, none, none, []⟩ pageKeys where
  record := EvalDraft.record
  fresh := by simp [fields]
  empty := rfl
  filters := by decide
  apart := by decide
  steady := by simp [fields, steady_of_ne, steady_filters]
  takes := by
    simp [fields, takes_readString, takes_strings, takes_requestFilters, takes_requestText,
      takes_requestDirection]

section Requests

variable {n : Node} {members members' : List (Node × Node)}

/-- A request for spans is read as the same one after its members have been rearranged. -/
theorem SpansRequest.ofNode_rearranged {r : SpansRequest}
    (h : Rearranged QueryKind.spans.knownKeys members members')
    (read : SpansRequest.ofNode (.object members true) = .ok r) :
    SpansRequest.ofNode (.object members' true) = .ok r := by
  obtain ⟨d, readDraft, read⟩ := bind_eq_ok read
  obtain ⟨time, readTime, read⟩ := bind_eq_ok read
  obtain ⟨page, readPage, finished⟩ := bind_eq_ok read
  obtain ⟨kept', readDraft', same⟩ := SpansDraft.requestDraft.rearranged h readDraft
  show (Node.readMembers SpansDraft.put true ⟨none, none, none, none, none, []⟩ members').bind _ = _
  rw [readDraft']
  show kept'.readTime.bind _ = _
  rw [Kept.readTime_of_perm (fun key hkey => same key (List.mem_append_left _ hkey)) readTime]
  show kept'.readPage.bind _ = _
  rw [Kept.readPage_of_perm (fun key hkey => same key (List.mem_append_right _ hkey)) readPage]
  exact finished

/-- A request for spans is a complete object. -/
theorem SpansRequest.exists_members {r : SpansRequest} (read : SpansRequest.ofNode n = .ok r) :
    ∃ members, n = .object members true ∧ n.isComplete = true := by
  obtain ⟨d, readDraft, _⟩ := bind_eq_ok read
  exact SpansDraft.requestDraft.exists_members readDraft

/-- A request for sessions is read as the same one after its members have been rearranged. -/
theorem SessionsRequest.ofNode_rearranged {r : SessionsRequest}
    (h : Rearranged QueryKind.sessions.knownKeys members members')
    (read : SessionsRequest.ofNode (.object members true) = .ok r) :
    SessionsRequest.ofNode (.object members' true) = .ok r := by
  obtain ⟨d, readDraft, read⟩ := bind_eq_ok read
  obtain ⟨time, readTime, read⟩ := bind_eq_ok read
  obtain ⟨page, readPage, finished⟩ := bind_eq_ok read
  obtain ⟨kept', readDraft', same⟩ := SessionsDraft.requestDraft.rearranged h readDraft
  show (Node.readMembers SessionsDraft.put true ⟨none, none, none, none, []⟩ members').bind _ = _
  rw [readDraft']
  show kept'.readTime.bind _ = _
  rw [Kept.readTime_of_perm (fun key hkey => same key (List.mem_append_left _ hkey)) readTime]
  show kept'.readPage.bind _ = _
  rw [Kept.readPage_of_perm (fun key hkey => same key (List.mem_append_right _ hkey)) readPage]
  exact finished

/-- A request for sessions is a complete object. -/
theorem SessionsRequest.exists_members {r : SessionsRequest} (read : SessionsRequest.ofNode n = .ok r) :
    ∃ members, n = .object members true ∧ n.isComplete = true := by
  obtain ⟨d, readDraft, _⟩ := bind_eq_ok read
  exact SessionsDraft.requestDraft.exists_members readDraft

/-- A request for an evaluation is read as the same one after its members have been rearranged. -/
theorem EvalRequest.ofNode_rearranged {r : EvalRequest}
    (h : Rearranged QueryKind.eval.knownKeys members members')
    (read : EvalRequest.ofNode (.object members true) = .ok r) :
    EvalRequest.ofNode (.object members' true) = .ok r := by
  obtain ⟨d, readDraft, read⟩ := bind_eq_ok read
  obtain ⟨evaluationId, readId, read⟩ := bind_eq_ok read
  obtain ⟨page, readPage, finished⟩ := bind_eq_ok read
  obtain ⟨kept', readDraft', same⟩ := EvalDraft.requestDraft.rearranged h readDraft
  show (Node.readMembers EvalDraft.put true ⟨none, none, none, none, none, none, none, []⟩
    members').bind _ = _
  rw [readDraft']
  show (required "evaluationId" d.evaluationId).bind _ = _
  rw [readId]
  show kept'.readPage.bind _ = _
  rw [Kept.readPage_of_perm same readPage]
  exact finished

/-- A request for an evaluation is a complete object. -/
theorem EvalRequest.exists_members {r : EvalRequest} (read : EvalRequest.ofNode n = .ok r) :
    ∃ members, n = .object members true ∧ n.isComplete = true := by
  obtain ⟨d, readDraft, _⟩ := bind_eq_ok read
  exact EvalDraft.requestDraft.exists_members readDraft

end Requests

/-! ## Texts -/

section Texts

variable {α β : Type} {read : Node → Except ReadError α} {f : α → β} {b : β} {text text' : String}
  {members members' : List (Node × Node)} {kind : QueryKind} {r : Request}

/-- If a text is read, nothing is behind its root, which is read. -/
theorem map_read_eq_ok {d : Document} (h : (d.read read).map f = .ok b) :
    d.trailing = false ∧ ∃ a, read d.root = .ok a ∧ f a = b := by
  unfold Document.read at h
  cases hread : read d.root with
  | error e =>
    rw [hread] at h
    cases h
  | ok a =>
    rw [hread] at h
    cases trailing : d.trailing with
    | true =>
      rw [trailing] at h
      cases h
    | false =>
      rw [trailing] at h
      exact ⟨rfl, a, rfl, Except.ok.inj h⟩

/-- A text that is written for a node is read as this node is. -/
theorem map_read_of_written {n : Node} {a : α} (written : Written n text) (hread : read n = .ok a) :
    ((Document.ofText text).read read).map f = .ok (f a) := by
  rw [ofText_of_written written]
  show ((read n).bind _).map f = _
  rw [hread]
  rfl

/-- A text whose root has to be a complete object is written for it. -/
theorem written_of_read (h : ((Document.ofText text).read read).map f = .ok b)
    (object : ∀ n a, read n = .ok a → ∃ members, n = .object members true ∧ n.isComplete = true) :
    ∃ members, Written (.object members true) text := by
  obtain ⟨trailing, a, hread, _⟩ := map_read_eq_ok h
  obtain ⟨members, same, complete⟩ := object _ a hread
  rw [same] at complete
  refine ⟨members, written_of_ofText ?_ complete⟩
  rw [← same, ← trailing]

/-- Another text of a root that is read the same. -/
theorem read_rearranged {n n' : Node} (h : ((Document.ofText text).read read).map f = .ok b)
    (written : Written n text) (written' : Written n' text')
    (steady : ∀ a, read n = .ok a → read n' = .ok a) :
    ((Document.ofText text').read read).map f = .ok b := by
  obtain ⟨_, a, hread, rfl⟩ := map_read_eq_ok h
  rw [ofText_of_written written] at hread
  exact map_read_of_written written' (steady a hread)

/-- A text that is read as a request is written for an object. -/
theorem Request.exists_written (read : Request.ofText kind text = .ok r) :
    ∃ members, Written (.object members true) text := by
  cases kind
  case spans | spansCount => exact written_of_read read fun n a => SpansRequest.exists_members
  case sessions | sessionsCount => exact written_of_read read fun n a => SessionsRequest.exists_members
  case eval | evalStats | evalCount => exact written_of_read read fun n a => EvalRequest.exists_members

/-- A text of the rearranged object is read as the same request. -/
theorem Request.ofText_rearranged (read : Request.ofText kind text = .ok r)
    (written : Written (.object members true) text) (h : Rearranged kind.knownKeys members members')
    (written' : Written (.object members' true) text') : Request.ofText kind text' = .ok r := by
  cases kind
  case spans | spansCount =>
    exact read_rearranged read written written' fun a => SpansRequest.ofNode_rearranged h
  case sessions | sessionsCount =>
    exact read_rearranged read written written' fun a => SessionsRequest.ofNode_rearranged h
  case eval | evalStats | evalCount =>
    exact read_rearranged read written written' fun a => EvalRequest.ofNode_rearranged h

end Texts

/-- A text from which a query is built is that of an object.  The same query is built from every text of
    this object, and of every object whose members are its own in any order, the filters' members also,
    with values beside them under keys that are not known. -/
theorem buildQuery_rearranged {limits : Limits} {kind : QueryKind} {text : String} {q : Query}
    (built : buildQuery limits kind text = .ok q) :
    (∃ members, Written (.object members true) text) ∧
      ∀ members members' text', Written (.object members true) text →
        Rearranged kind.knownKeys members members' → Written (.object members' true) text' →
        buildQuery limits kind text' = .ok q := by
  obtain ⟨r, read, fits, answered⟩ := buildQuery_eq_ok_iff.mp built
  refine ⟨Request.exists_written read, fun members members' text' written h written' => ?_⟩
  exact buildQuery_eq_ok_iff.mpr ⟨r, Request.ofText_rearranged read written h written', fits, answered⟩

/-- An evaluation with a filter; and once more with blanks and everything the other way round, a note
    beside the filter's own keys, and hours, which no evaluation knows. -/
theorem buildQuery_rearranged_reversed :
    ∃ q, buildQuery Limits.default .eval
        ("\x7b\"evaluationId\":\"e\",\"limit\":5,\"scoreNames\":[\"f\"]," ++
          "\"filters\":[\x7b\"column\":\"score:f\",\"operator\":\"gt\",\"value\":\"1\"\x7d]\x7d")
        = .ok q ∧
      buildQuery Limits.default .eval
        ("\x7b\"pastHours\": [7],\n\t\"filters\" : [ \x7b\"note\":null,\"value\":\"1\"," ++
          "\"operator\":\"gt\", \"column\":\"score:f\" \x7d ],\"scoreNames\":[ \"f\" ]," ++
          "\"limit\":5 ,\"evaluationId\":\"e\"\x7d ")
        = .ok q := by
  let text (s : String) : Node := .scalar (.string s)
  let number (n : Int) : Node := .scalar (.number (.integer n))
  let own := [(text "column", text "score:f"), (text "operator", text "gt"), (text "value", text "1")]
  let noted := own ++ [(text "note", .scalar .null)]
  let front := [(text "evaluationId", text "e"), (text "limit", number 5),
    (text "scoreNames", .array [text "f"] true)]
  let members := front ++ [(text "filters", .array [.object own true] true)]
  let mid := front ++ [(text "filters", .array [.object noted.reverse true] true)]
  let all := mid ++ [(text "pastHours", .array [number 7] true)]
  have rearranged : Rearranged QueryKind.eval.knownKeys members all.reverse := by
    refine ⟨mid, .cons (.same _) (.cons (.same _) (.cons (.same _) (.cons (.filters ?_) .nil))),
      [(text "pastHours", .array [number 7] true)], ?_, (List.reverse_perm _).symm⟩
    · refine .cons (.object ⟨[(text "note", .scalar .null)], ?_, (List.reverse_perm _).symm⟩) .nil
      intro m hm
      rw [List.mem_singleton.mp hm]
      exact ⟨"note", rfl, by decide, rfl⟩
    · intro m hm
      rw [List.mem_singleton.mp hm]
      exact ⟨"pastHours", rfl, by decide, rfl, by decide⟩
  let r : EvalRequest :=
    { evaluationId := "e", targetId := none, scoreNames := ["f"]
      filters := [⟨"score:f", .gt, .text "1"⟩], traceIds := [], sortBy := none
      sortDirection := none, page := ⟨none, none, some 5, none⟩ }
  -- the query exists, since the standard columns bind nothing and the filter has a condition
  have expressible : ∀ e, .error e ∉ r.toOptions.primarySelect.outcomes :=
    Select.expressible_of_isOk (by decide +kernel)
  obtain ⟨q, ran, _⟩ := EvalOptions.runQuery_closed r.silent_columns expressible
  -- any two texts of the two objects build the query
  have both (t t' : String) (written : Written (.object members true) t)
      (written' : Written (.object all.reverse true) t') :
      buildQuery Limits.default .eval t = .ok q ∧ buildQuery Limits.default .eval t' = .ok q := by
    have built : buildQuery Limits.default .eval t = .ok q := by
      refine buildQuery_eq_ok_iff.mpr ⟨.eval r, ?_, by decide, ran⟩
      rw [Request.ofText, EvalRequest.ofText, ofText_of_written written]
      rfl
    exact ⟨built, (buildQuery_rearranged built).2 members _ t' written rearranged written'⟩
  exact ⟨q, both _ _ (written_of_tokens (by decide +kernel) (by decide +kernel))
    (written_of_tokens (by decide +kernel) (by decide +kernel))⟩

end TraceQuery
