/-
  A finished query has a value of the right type for each of its placeholders.

  A slot is a placeholder with the value that it is given, of a type that admits the value.  The proofs
  keep, beside each text, the slots that it is filled with.

  1. **Queries** (`Query.FilledBy`): the placeholders of the text and the parameters are those of one
     list of slots, whose names differ.  Then the query is well typed (`Query.FilledBy.wellTyped`): every
     placeholder has a value of its type, no name has two types, and what counts is no less than zero.
  2. **Conditions** (`Condition.Filled`): a window, a page and the filters of typed columns are filled.
     That the hours of a window can be bound is due to the way that they are read
     (`TimeInput.bounded_of_resolve`).
  3. **Selects** (`Select.Typed`): window, filters, conditions and page are filled, and the clauses stand
     in the order in which their values are bound (`Select.Typed.filledBy`).
  4. **Queries around queries** keep their slots, and two queries that share no name put theirs
     together (`Query.FilledBy.around`, `Query.FilledBy.join`).

-/
import Mathlib.Data.List.Nodup
import TraceQuery.Proofs.Filter.Typing
import TraceQuery.Proofs.Select.Agreeing

namespace TraceQuery

open TraceQuery.Sql

/-! ## Queries -/

namespace Query

/-- Every placeholder outside quotes has a value of its type, no name stands for two types, and the
    parameters that count are not negative. -/
structure WellTyped (q : Query) : Prop where
  /-- A placeholder has one of the types of columns, and a value that this type admits. -/
  value : ∀ p ∈ references q.text, ∃ type : ColumnType, p.type = type.text ∧
    ∃ v, q.parameters.find? p.name = some v ∧ type.admits v = true
  /-- Two placeholders of one name have one type. -/
  sole : ∀ p ∈ references q.text, ∀ p' ∈ references q.text, p.name = p'.name → p.type = p'.type
  /-- Limits, offsets and hours are natural numbers. -/
  counts : ∀ n ∈ countNames, ∀ v, q.parameters.find? n = some v → ∃ k : Nat, v = .int (Int.ofNat k)

/-- The placeholders of the text and the parameters are those of slots, each name once. -/
structure FilledBy (q : Query) (slots : List Slot) : Prop where
  /-- The text refers to the placeholders of the slots, in their order. -/
  reads : Reads q.text (slots.map Slot.placeholder)
  /-- No two slots have one name. -/
  nodup : (slots.map Slot.name).Nodup
  /-- The parameters are the values of the slots. -/
  entries : ∀ b, b ∈ q.parameters.entries ↔ b ∈ slots.map Slot.binding

namespace FilledBy

variable {q r : Query} {slots more : List Slot}

/-- The parameters have the names of the slots. -/
theorem mem_names (h : q.FilledBy slots) {n : String} :
    n ∈ q.parameters.names ↔ n ∈ slots.map Slot.name := by
  have names : n ∈ slots.map Slot.name ↔ ∃ b ∈ slots.map Slot.binding, b.1 = n := by
    simp only [List.mem_map, exists_exists_and_eq_and]
    rfl
  rw [names, Parameters.names, List.mem_map]
  simp only [h.entries]

/-- A query that is filled is well typed. -/
theorem wellTyped (h : q.FilledBy slots) : q.WellTyped where
  value := by
    intro p hp
    rw [h.reads.references] at hp
    obtain ⟨s, hs, rfl⟩ := List.mem_map.mp hp
    refine ⟨s.type, rfl, s.value, ?_, s.admitted⟩
    exact Parameters.find?_eq_some_iff.mpr ((h.entries _).mpr (List.mem_map_of_mem hs))
  sole := by
    intro p hp p' hp' same
    rw [h.reads.references] at hp hp'
    obtain ⟨s, hs, rfl⟩ := List.mem_map.mp hp
    obtain ⟨s', hs', rfl⟩ := List.mem_map.mp hp'
    have one : s = s' := List.inj_on_of_nodup_map h.nodup hs hs' same
    rw [one]
  counts := by
    intro n hn v hv
    obtain ⟨s, hs, same⟩ := List.mem_map.mp ((h.entries _).mp (Parameters.find?_eq_some_iff.mp hv))
    obtain ⟨rfl, rfl⟩ := Prod.mk.inj same
    have count := s.counted hn
    -- a slot of a count holds an integer that is no less than zero
    cases value : s.value with
    | int m =>
      rw [value] at count
      have nonneg : 0 ≤ m := by simpa [ParamValue.isCount] using count
      obtain ⟨k, rfl⟩ := Int.eq_ofNat_of_zero_le nonneg
      exact ⟨k, rfl⟩
    | _ =>
      rw [value] at count
      cases count

/-- A text around a filled query that refers to nothing else, with the parameters of the query. -/
theorem around (h : q.FilledBy slots) (reads : Reads r.text (references q.text))
    (same : r.parameters = q.parameters) : r.FilledBy slots where
  reads := h.reads.references ▸ reads
  nodup := h.nodup
  entries := same ▸ h.entries

/-- A text that refers to what two filled queries refer to, with the parameters of both. -/
theorem join {c : Query} (hq : q.FilledBy slots) (hc : c.FilledBy more)
    (apart : ∀ n ∈ c.parameters.names, n ∉ q.parameters.names)
    (reads : Reads r.text (references q.text ++ references c.text))
    (bound : q.parameters.bindAll c.parameters.entries = .ok r.parameters) :
    r.FilledBy (slots ++ more) where
  reads := by
    rw [hq.reads.references, hc.reads.references] at reads
    rwa [List.map_append]
  nodup := by
    rw [List.map_append, List.nodup_append]
    refine ⟨hq.nodup, hc.nodup, ?_⟩
    rintro a ha _ hb rfl
    exact apart a (hc.mem_names.mpr hb) (hq.mem_names.mpr ha)
  entries := by
    intro b
    rw [Parameters.mem_entries_of_bindAll apart c.parameters.names_nodup bound, hq.entries, hc.entries,
      List.map_append, List.mem_append]

end FilledBy

end Query

/-! ## Conditions -/

/-- The hours of a window are an integer that can be bound. -/
def TimeWindow.Bounded (w : TimeWindow) : Prop :=
  ∀ hours, w = .pastHours hours → hours ≤ Text.maxInteger

/-- What is read as a count of hours can be bound. -/
theorem bounded_readLookBack {text : String} {hours : Nat} (h : readLookBack text = some hours) :
    hours ≤ Text.maxInteger := by
  rw [readLookBack] at h
  split at h
  · rename_i read
    split at h
    · have bound : hours ≤ Text.maxHours := Option.some.inj h ▸ Text.readNat_le read
      exact Nat.le_trans bound (by decide)
    · cases h
  · cases h

/-- The hours of a window that a request selects can be bound. -/
theorem TimeInput.bounded_of_resolve {input : TimeInput} {column : String} {window : Option TimeRange}
    (h : input.resolve column = .ok window) : ∀ range ∈ window, range.window.Bounded := by
  rintro range rfl hours past
  rw [resolve] at h
  split at h
  · obtain ⟨start, _, h⟩ := bind_eq_ok h
    obtain ⟨stop, _, h⟩ := bind_eq_ok h
    have same : ⟨column, .between start stop⟩ = range := Option.some.inj (Except.ok.inj h)
    rw [← same] at past
    cases past
  · obtain ⟨hours', look, rfl⟩ := Option.map_eq_some_iff.mp (Except.ok.inj h)
    obtain ⟨text, _, read⟩ := Option.bind_eq_some_iff.mp look
    exact TimeWindow.pastHours.inj past ▸ bounded_readLookBack read

/-- The slot of a count. -/
def Slot.ofCount (name : String) (n : Nat) (fits : n ≤ Text.maxInteger) : Slot where
  name := name
  type := .int64
  value := .int (Int.ofNat n)
  admitted := fitsInteger_ofNat fits
  counted := fun _ => decide_eq_true (Int.natCast_nonneg n)

/-- The condition of a window over a silent column is filled. -/
theorem TimeRange.filled_condition {range : TimeRange} (silent : Silent range.column)
    (bounded : range.window.Bounded) : range.condition.Filled := by
  obtain ⟨column, window⟩ := range
  cases window with
  | between start stop =>
    have lower := Reads.glued silent (show Glue " >= " by decide)
      (reads_placeholder (show isName "startTime".toList = true by decide) .string)
    have middle := Reads.glued lower (show Glue " AND " by decide) silent
    have upper := Reads.glued middle (show Glue " <= " by decide)
      (reads_placeholder (show isName "endTime".toList = true by decide) .string)
    exact ⟨[.ofName "startTime" .string (.string start.write) rfl (by decide),
      .ofName "endTime" .string (.string stop.write) rfl (by decide)], upper, rfl⟩
  | pastHours hours =>
    have lower := Reads.glued silent (show Glue " >= now() - INTERVAL " by decide)
      (reads_placeholder (show isName "pastHours".toList = true by decide) .int64)
    have whole := lower.back (show Plain " HOUR" by decide) (by decide)
    exact ⟨[.ofCount "pastHours" hours (bounded hours rfl)], whole, rfl⟩

theorem Page.filled_clause (p : Page) : p.clause.Filled :=
  ⟨[.ofCount "limit" _ (Nat.min_le_right p.limit _), .ofCount "offset" _ (Nat.min_le_right p.offset _)],
    p.reads_clause, rfl⟩

/-- Conditions that are filled one by one are filled together. -/
theorem exists_slots_of_filled {cs : List Condition} (h : ∀ c ∈ cs, c.Filled) :
    ∃ slots : List Slot, (cs.map Condition.text).flatMap references = slots.map Slot.placeholder ∧
      cs.flatMap Condition.bindings = slots.map Slot.binding := by
  induction cs with
  | nil => exact ⟨[], rfl, rfl⟩
  | cons c cs ih =>
    obtain ⟨first, reads, bound⟩ := h c List.mem_cons_self
    obtain ⟨rest, refs, bindings⟩ := ih fun d hd => h d (List.mem_cons_of_mem c hd)
    refine ⟨first ++ rest, ?_, ?_⟩
    · rw [List.map_cons, List.flatMap_cons, reads.references, refs, List.map_append]
    · rw [List.flatMap_cons, bound, bindings, List.map_append]

/-- The names of filters are not those of counts. -/
theorem not_counted_of_head? {n : String}
    (h : n.toList.head? = some 'f' ∨ n.toList.head? = some 'h') : n ∉ countNames := by
  intro hn
  have reserved : n ∈ reservedNames := by
    have sub : countNames ⊆ reservedNames := by decide
    exact sub hn
  rcases h with h | h
  · exact (head?_of_reserved n reserved).1 h
  · exact (head?_of_reserved n reserved).2 h

/-- The conditions of filters that are kept are filled. -/
theorem filled_of_mem_kept {group : String} {c : Char} {rest : List Char}
    (hg : group.toList = c :: rest) (head : c = 'f' ∨ c = 'h') (name : isName group.toList = true)
    {columns : Option ColumnFilters} (typed : ∀ cs ∈ columns, cs.All ColumnFilter.Typed)
    {filters : List Filter} {cond : Condition}
    (h : cond ∈ kept (filterOutcomes group columns filters)) : cond.Filled := by
  rcases mem_filterOutcomes typed (mem_kept.mp h) with dropped | ⟨filter, typed, f, _, i, applied⟩
  · cases dropped
  · refine ColumnFilter.filled typed (isName_parameterKey name f.column i) ?_ applied.symm
    intro n under
    refine not_counted_of_head? ?_
    rcases head with rfl | rfl
    · exact .inl (under.head? hg)
    · exact .inr (under.head? hg)

/-! ## Selects -/

namespace Select

variable {s : Select}

/-- A select of silent SQL whose window, filters and conditions have values of their types. -/
structure Typed (s : Select) : Prop where
  /-- The text refers to what is bound. -/
  agreeing : s.Agreeing
  /-- The hours to look back can be bound. -/
  window : ∀ range ∈ s.timeRange, range.window.Bounded
  /-- The columns to filter by bind values of their types, those of rows -/
  rows : ∀ cs ∈ s.columnFilters, cs.All ColumnFilter.Typed
  /-- and those of groups. -/
  groups : ∀ cs ∈ s.groupColumnFilters, cs.All ColumnFilter.Typed
  /-- The fixed conditions are filled. -/
  conditions : ∀ c ∈ s.conditions, c.Filled

/-- The conditions of a select and the clause of its page, in the order in which they are bound. -/
def boundConditions (s : Select) : List Condition := kept s.outcomes ++ (s.page.map Page.clause).toList

namespace Typed

/-- Whatever a typed select binds is bound by a filled condition. -/
theorem filled_of_mem (h : s.Typed) : ∀ c ∈ s.boundConditions, c.Filled := by
  intro c hc
  rw [boundConditions, outcomes, kept_append, kept_rowOutcomes] at hc
  simp only [List.mem_append, or_assoc] at hc
  rcases hc with hc | hc | hc | hc | hc
  · obtain ⟨range, hr, rfl⟩ := List.mem_map.mp hc
    have hr : range ∈ s.timeRange := by simpa using hr
    exact TimeRange.filled_condition (h.agreeing.window range hr) (h.window range hr)
  · exact filled_of_mem_kept rfl (.inl rfl) (by decide) h.rows hc
  · exact h.conditions c hc
  · exact filled_of_mem_kept rfl (.inr rfl) (by decide) h.groups hc
  · obtain ⟨page, _, rfl⟩ := Option.map_eq_some_iff.mp (Option.mem_toList.mp hc)
    exact page.filled_clause

/-- The clauses without values refer to nothing, and the others stand in the order of the bindings. -/
theorem references_parts (h : s.Typed) :
    s.statement.parts.flatMap references
      = (s.boundConditions.map Condition.text).flatMap references := by
  have silent {texts : List String} (ht : ∀ t ∈ texts, Silent t) : texts.flatMap references = [] :=
    List.flatMap_eq_nil_iff.mpr fun t mem => (ht t mem).references
  have terms : ∀ t ∈ s.orderBy.map SortTerm.expression, Silent t := by
    intro t ht
    obtain ⟨term, mem, rfl⟩ := List.mem_map.mp ht
    exact h.agreeing.orderBy term mem
  have page : ((s.page.map Page.clause).map Condition.text).toList
      = (s.page.map Page.clause).toList.map Condition.text := by
    cases s.page with
    | none => rfl
    | some page => rfl
  simp only [Statement.parts, statement, boundConditions, outcomes, kept_append, List.map_append,
    List.flatMap_append, List.flatMap_cons, List.flatMap_nil, page, silent h.agreeing.columns,
    silent h.agreeing.groupBy, silent terms, h.agreeing.table.references, List.append_nil,
    List.nil_append, List.append_assoc]

/-- A typed select that is built is filled. -/
theorem filledBy (h : s.Typed) {q : Query} (built : s.build = .ok q) : ∃ slots, q.FilledBy slots := by
  obtain ⟨slots, refs, bindings⟩ := exists_slots_of_filled h.filled_of_mem
  have bindings : s.bindings = slots.map Slot.binding := bindings
  refine ⟨slots, ?_, ?_, ?_⟩
  · rw [text_of_build built, ← refs, ← h.references_parts]
    exact Statement.reads_text (balanced_statement h.agreeing.balanced)
  · have nodup := h.agreeing.named.nodup
    rw [bindings, List.map_map] at nodup
    exact nodup
  · intro b
    rw [h.agreeing.named.mem_entries built, bindings]

end Typed

end Select

end TraceQuery
