/-
  Where the filters of a sessions request go.

  1. **Parts** (`Sessions.splitFilters_parts`): rows and groups are sublists of the filters and together all
     of them.
  2. **Tables** (`Sessions.isAggregate_iff`): the list of aggregate columns names the columns of the table
     of aggregates and no others, so a filter is sent to the table that knows its column if one does.
  3. **Positions** (`mapIdx_filter`): a filter stands in its part behind the filters of its own kind that
     are in front of it in the request (`Sessions.rank`).
  4. **Conditions** (`Sessions.Contributes`): in a list that is built, a filter of a known column and a
     value of use gives one condition under its own key, and any other filter gives none.
     `SessionsRequest.filters_routed` says where these conditions stand.
-/
import Mathlib.Data.List.Basic
import TraceQuery.Proofs.Filter.Pairing
import TraceQuery.Proofs.View.Closed

namespace TraceQuery

open TraceQuery.Sql

/-! ## Positions -/

/-- The elements of a kind have the positions that count those of their kind. -/
theorem mapIdx_filter {α β : Type} (p : α → Bool) (g : Nat → α → β) (xs : List α) :
    (xs.filter p).mapIdx g = (xs.zipIdx.filter fun e => p e.1).map fun e =>
      g ((xs.take e.2).filter p).length e.1 := by
  induction xs generalizing g with
  | nil => rfl
  | cons x xs ih =>
    have later : (x :: xs).zipIdx = (x, 0) :: xs.zipIdx.map fun e => (e.1, e.2 + 1) := by
      rw [List.zipIdx_cons, List.zipIdx_succ]
    have shifted : (xs.zipIdx.map fun e => (e.1, e.2 + 1)).filter (fun e => p e.1)
        = (xs.zipIdx.filter fun e => p e.1).map fun e => (e.1, e.2 + 1) := List.filter_map
    rw [later, List.filter_cons, List.filter_cons, shifted]
    -- an element of the kind is one more in front of all later ones, any other is none
    cases hx : p x with
    | true =>
      rw [if_pos rfl, if_pos rfl, List.mapIdx_cons, ih, List.map_cons, List.map_map]
      simp [hx]
    | false =>
      rw [if_neg Bool.false_ne_true, if_neg Bool.false_ne_true, ih, List.map_map]
      simp [hx]

namespace Sessions

/-! ## Parts -/

/-- The two parts keep the order of the filters and together hold each as often as it is given. -/
theorem splitFilters_parts (fs : List Filter) :
    (splitFilters fs).1.Sublist fs ∧ (splitFilters fs).2.Sublist fs ∧
      ((splitFilters fs).1 ++ (splitFilters fs).2).Perm fs := by
  refine ⟨List.filter_sublist, List.filter_sublist, ?_⟩
  have whole := List.filter_append_perm (fun f : Filter => !isAggregate f.column) fs
  simp only [Bool.not_not] at whole
  exact whole

/-! ## Tables -/

end Sessions

namespace ColumnFilters

variable {cs : ColumnFilters} {column : String} {c : ColumnFilter}

/-- A filter that is found for a column is an entry of the table under that name. -/
theorem mem_of_find? (found : cs.find? column = some c) : (column, c) ∈ cs.entries := by
  obtain ⟨e, he, rfl⟩ := Option.map_eq_some_iff.mp found
  have name : (e.1 == column) = true :=
    List.find?_some (p := fun e : String × ColumnFilter => e.1 == column) he
  rw [← eq_of_beq name]
  exact List.mem_of_find?_eq_some he

/-- A table knows the columns that its entries name. -/
theorem contains_iff : cs.contains column = true ↔ column ∈ cs.entries.map Prod.fst := by
  rw [contains, Option.isSome_iff_exists]
  constructor
  · rintro ⟨c, found⟩
    exact List.mem_map_of_mem (mem_of_find? found)
  · intro h
    obtain ⟨e, he, rfl⟩ := List.mem_map.mp h
    have : (cs.entries.find? fun d => d.1 == e.1).isSome = true :=
      List.find?_isSome.mpr ⟨e, he, beq_self_eq_true e.1⟩
    obtain ⟨d, hd⟩ := Option.isSome_iff_exists.mp this
    exact ⟨d.2, congrArg (Option.map Prod.snd) hd⟩

end ColumnFilters

/-- A condition that refers to what it binds, under a key, stands for itself. -/
theorem Condition.Agrees.paired {c : Condition} {key : String} (h : c.Agrees)
    (under : ∀ n ∈ c.bindings.map Prod.fst, NamedUnder key n) (distinct : (c.bindings.map Prod.fst).Nodup) :
    c.Paired key where
  names := by
    obtain ⟨refs, reads, same⟩ := h
    show nameSet ((references c.text).map Placeholder.name) = _
    rw [reads.references, same]
  distinct := distinct
  under n hn := (under n hn).spelled
  balanced := h.balanced

namespace Sessions

/-- The list of aggregate columns is in step with their table. -/
theorem isAggregate_iff (column : String) :
    isAggregate column = true ↔ aggregateFilters.contains column = true := by
  have columns : aggregateFilters.entries.map Prod.fst = aggregateColumns := rfl
  rw [ColumnFilters.contains_iff, columns, isAggregate, List.contains_iff_mem]

/-- The table that a filter on a column is sent to. -/
def tableOf (column : String) : ColumnFilters :=
  if isAggregate column then aggregateFilters else columnFilters

/-- The column is known to one of the tables. -/
def Known (column : String) : Prop :=
  columnFilters.contains column = true ∨ aggregateFilters.contains column = true

/-- The value is of use for the column: `metadata` takes a key and a value, and an aggregate a number. -/
def Usable (f : Filter) : Prop :=
  (f.column = "metadata" → ∃ k v, f.value.keyAndValue? = some (k, v)) ∧
    (isAggregate f.column = true → ∃ x, f.value.toFinite? = some x)

/-- No column of a trace is an aggregate, so a known column is known to the table that it is sent to. -/
theorem known_iff (column : String) : Known column ↔ (tableOf column).contains column = true := by
  rw [Known, tableOf]
  split
  · rename_i aggregate
    exact iff_of_true (.inr ((isAggregate_iff column).mp aggregate)) ((isAggregate_iff column).mp aggregate)
  · rename_i other
    constructor
    · rintro (known | known)
      · exact known
      · exact absurd ((isAggregate_iff column).mpr known) other
    · exact .inl

theorem entries_columnFilters : columnFilters.entries = [("session_id", .string "session_id"),
    ("user_id", .string "user_id"), ("metadata", .keyValue "metadata")] := rfl

/-- A column's filter keeps the values that are of use for the column. -/
theorem keeps_iff {f : Filter} {c : ColumnFilter} (found : (tableOf f.column).find? f.column = some c) :
    c.keeps f.value = true ↔ Usable f := by
  rw [tableOf] at found
  rw [Usable]
  split at found
  · rename_i aggregate
    have sums : aggregateFilters.All fun c => ∃ sql, c = .aggregate sql :=
      ColumnFilters.all_ofList (by simp)
    obtain ⟨sql, rfl⟩ := sums.find? found
    have noText : f.column ≠ "metadata" := by
      intro same
      rw [same] at aggregate
      exact absurd aggregate (by decide)
    show f.value.toFinite?.isSome = true ↔ _
    rw [Option.isSome_iff_exists]
    simp [noText, aggregate]
  · rename_i plain
    have mem := ColumnFilters.mem_of_find? found
    rw [entries_columnFilters] at mem
    simp only [List.mem_cons, Prod.mk.injEq, List.not_mem_nil, or_false] at mem
    rw [and_iff_left fun aggregate => absurd aggregate plain]
    rcases mem with ⟨column, rfl⟩ | ⟨column, rfl⟩ | ⟨column, rfl⟩
    · simp [column, ColumnFilter.keeps]
    · simp [column, ColumnFilter.keeps]
    · show f.value.keyAndValue?.isSome = true ↔ _
      rw [Option.isSome_iff_exists]
      simp [column]

/-! ## Keys -/

/-- The position of a filter among the filters of its kind. -/
def rank (fs : List Filter) (e : Filter × Nat) : Nat :=
  ((fs.take e.2).filter fun f => isAggregate f.column == isAggregate e.1.column).length

/-- The key of a filter: the clause that it goes to, its column, and its position among its kind. -/
def keyOf (fs : List Filter) (e : Filter × Nat) : String :=
  (if isAggregate e.1.column then "having_" else "filter_") ++ e.1.column ++ "_" ++ Text.writeNat (rank fs e)

/-- The group of names that belongs to the clause. -/
def groupOf (column : String) : String := if isAggregate column then "having" else "filter"

/-- The names of known columns stand in keys as they are. -/
theorem parameterKey_of_known {fs : List Filter} {e : Filter × Nat} (known : Known e.1.column) :
    parameterKey (groupOf e.1.column) e.1.column (rank fs e) = keyOf fs e := by
  have safe : ∀ column ∈ columnFilters.entries.map Prod.fst ++ aggregateFilters.entries.map Prod.fst,
      nameSafe column = column := by decide +kernel
  have mem : e.1.column ∈ columnFilters.entries.map Prod.fst ++ aggregateFilters.entries.map Prod.fst := by
    rw [List.mem_append, ← ColumnFilters.contains_iff, ← ColumnFilters.contains_iff]
    exact known
  rw [parameterKey, safe _ mem, keyOf, groupOf]
  split
  · rfl
  · rfl

section

variable {fs : List Filter} {e d : Filter × Nat}

/-- Of two filters of a kind the one in front has the smaller rank. -/
theorem rank_lt (he : e ∈ fs.zipIdx) (kind : isAggregate e.1.column = isAggregate d.1.column)
    (before : e.2 < d.2) : rank fs e < rank fs d := by
  obtain ⟨f, i⟩ := e
  have at_i : fs[i]? = some f := List.mem_zipIdx_iff_getElem?.mp he
  have next : fs.take (i + 1) = fs.take i ++ [f] := by
    rw [List.take_add_one, at_i]
    rfl
  have front : (fs.take (i + 1)).Sublist (fs.take d.2) := List.take_sublist_take_left before
  have more := (front.filter fun g => isAggregate g.column == isAggregate d.1.column).length_le
  rw [next, List.filter_append, List.length_append, List.filter_singleton, ← kind, beq_self_eq_true] at more
  rw [rank, rank, ← kind]
  exact more

/-- Keys tell filters apart. -/
theorem eq_of_keyOf_eq (he : e ∈ fs.zipIdx) (hd : d ∈ fs.zipIdx) (same : keyOf fs e = keyOf fs d) :
    e = d := by
  have last (d : Filter × Nat) : lastPart (keyOf fs d) = (Text.writeNat (rank fs d)).toList.reverse := by
    refine lastPart_append fun h => ?_
    exact absurd (isDigit_writeNat _ '_' h) (by decide)
  -- the rank is the last part of a key, as digits hold no underscore
  have ranks : rank fs e = rank fs d := by
    have digits := congrArg lastPart same
    rw [last, last, List.reverse_inj] at digits
    exact writeNat_injective (String.toList_inj.mp digits)
  -- the first letter of a key tells the clause
  have first (d : Filter × Nat) :
      (keyOf fs d).toList.head? = some (if isAggregate d.1.column then 'h' else 'f') := by
    rw [keyOf]
    split
    · simp
    · simp
  have kind : isAggregate e.1.column = isAggregate d.1.column := by
    have heads := first e
    rw [same, first d] at heads
    revert heads
    cases isAggregate e.1.column <;> cases isAggregate d.1.column <;> decide
  have position : e.2 = d.2 := by
    rcases Nat.lt_trichotomy e.2 d.2 with before | equal | after
    · have := rank_lt he kind before
      omega
    · exact equal
    · have := rank_lt hd kind.symm after
      omega
  have filter : e.1 = d.1 := by
    rw [List.mem_zipIdx_iff_getElem?] at he hd
    rw [position, hd] at he
    exact (Option.some.inj he).symm
  exact Prod.ext filter position

end

/-! ## Conditions -/

/-- What becomes of a filter at a position. -/
def outcomeOf (fs : List Filter) (e : Filter × Nat) : FilterOutcome :=
  (tableOf e.1.column).build e.1 (parameterKey (groupOf e.1.column) e.1.column (rank fs e))

/-- The condition that a filter at a position gives, if it gives one. -/
def conditionOf (fs : List Filter) (e : Filter × Nat) : Option Condition :=
  FilterOutcome.condition? (outcomeOf fs e)

/-- A filter of a known column and a value of use contributes one condition, made by its column's filter
    under its key, and any other filter none. -/
structure Contributes (fs : List Filter) (e : Filter × Nat) (given : Option Condition) : Prop where
  /-- there is a condition exactly if the column is known and the value is of use -/
  given_iff : given.isSome = true ↔ Known e.1.column ∧ Usable e.1
  /-- it is made by the filter of the column -/
  made : ∀ c ∈ given, ∃ filter, (tableOf e.1.column).find? e.1.column = some filter ∧
    filter.apply e.1 (keyOf fs e) = .ok (some c)
  /-- and refers to what it binds, all under the key -/
  paired : ∀ c ∈ given, c.Paired (keyOf fs e)

theorem clean_tableOf (column : String) : (tableOf column).Clean := by
  rw [tableOf]
  split
  · exact clean_aggregateFilters
  · exact clean_columnFilters

/-- A filter that does not fail contributes what it should, told by whether its column is known and then by
    whether its value is of use. -/
theorem contributes {fs : List Filter} {e : Filter × Nat} (good : ∀ error, outcomeOf fs e ≠ .error error) :
    Contributes fs e (conditionOf fs e) := by
  have known := known_iff e.1.column
  rw [ColumnFilters.contains] at known
  rw [conditionOf]
  rw [outcomeOf, ColumnFilters.build] at *
  cases found : (tableOf e.1.column).find? e.1.column with
  | none =>
    rw [found] at known
    -- an unknown column: the table answers with no condition
    have unknown : ¬ Known e.1.column := fun h => absurd (known.mp h) Bool.false_ne_true
    refine ⟨iff_of_false Bool.false_ne_true fun h => unknown h.1, ?_, ?_⟩
    · exact fun c hc => absurd hc (Option.not_mem_none c)
    · exact fun c hc => absurd hc (Option.not_mem_none c)
  | some filter =>
    rw [found] at known good
    have isKnown : Known e.1.column := known.mpr rfl
    rw [parameterKey_of_known isKnown] at *
    have silent := (clean_tableOf e.1.column).silent.find? found
    have isKey : isName (keyOf fs e).toList = true := by
      rw [← parameterKey_of_known isKnown]
      refine isName_parameterKey ?_ _ _
      unfold groupOf
      split <;> decide
    obtain ⟨given, applied⟩ : ∃ given, filter.apply e.1 (keyOf fs e) = .ok given := by
      cases outcome : filter.apply e.1 (keyOf fs e) with
      | error error => exact absurd outcome (good error)
      | ok given => exact ⟨given, rfl⟩
    show Contributes fs e (FilterOutcome.condition? (filter.apply e.1 (keyOf fs e)))
    rw [applied]
    refine ⟨?_, ?_, ?_⟩
    · rw [← keeps_iff found, and_iff_right isKnown]
      show given.isSome = true ↔ _
      rw [ColumnFilter.apply_eq silent.own] at applied
      cases symbol : filter.operatorText e.1 with
      | error error =>
        rw [symbol] at applied
        cases applied
      | ok symbol' =>
        rw [symbol] at applied
        rw [← Except.ok.inj applied]
        cases filter.keeps e.1.value <;> simp
    · intro c hc
      exact ⟨filter, found, applied.trans (congrArg Except.ok hc)⟩
    · intro c hc
      obtain ⟨agrees, names⟩ := ColumnFilter.agrees silent isKey (applied.trans (congrArg Except.ok hc))
      obtain ⟨under, distinct⟩ := ColumnFilter.boundNames_under silent.own e.1 (keyOf fs e)
      exact agrees.paired (names ▸ under) (names ▸ distinct)

/-- The conditions that are kept are those that the filters give, in their order. -/
theorem kept_outcomesOf (fs : List Filter) (es : List (Filter × Nat)) :
    kept (es.map (outcomeOf fs)) = es.filterMap (conditionOf fs) := by
  rw [kept, List.filterMap_map]
  rfl

/-- What becomes of the parts of the filters, told by the whole list. -/
theorem outcomes_splitFilters (fs : List Filter) :
    filterOutcomes "filter" (some columnFilters) (splitFilters fs).1
        = (fs.zipIdx.filter fun e => !isAggregate e.1.column).map (outcomeOf fs) ∧
      filterOutcomes "having" (some aggregateFilters) (splitFilters fs).2
        = (fs.zipIdx.filter fun e => isAggregate e.1.column).map (outcomeOf fs) := by
  constructor
  · show (fs.filter fun f => !isAggregate f.column).mapIdx _ = _
    rw [mapIdx_filter]
    refine List.map_congr_left fun e he => ?_
    have row : isAggregate e.1.column = false := by simpa using (List.mem_filter.mp he).2
    rw [outcomeOf, tableOf, groupOf, rank, row]
    simp
  · show (fs.filter fun f => isAggregate f.column).mapIdx _ = _
    rw [mapIdx_filter]
    refine List.map_congr_left fun e he => ?_
    have group : isAggregate e.1.column = true := (List.mem_filter.mp he).2
    rw [outcomeOf, tableOf, groupOf, rank, group]
    simp

end Sessions

/-! ## The list -/

/-- What becomes of a filter is among the outcomes of the select. -/
theorem SessionsRequest.mem_outcomes_of_filter (r : SessionsRequest) (columns : List String)
    (window : Option TimeRange) (groupBy : List String) (orderBy : List SortTerm) (page : Option Page)
    {e : Filter × Nat} (he : e ∈ r.filters.zipIdx) :
    Sessions.outcomeOf r.filters e ∈ (r.selectOf columns window groupBy orderBy page).outcomes := by
  obtain ⟨rows, groups⟩ := Sessions.outcomes_splitFilters r.filters
  cases kind : Sessions.isAggregate e.1.column with
  | false =>
    refine List.mem_append_left _ (List.mem_append_left _ (List.mem_append_right _ ?_))
    show _ ∈ filterOutcomes "filter" (some Sessions.columnFilters) (Sessions.splitFilters r.filters).1
    rw [rows]
    exact List.mem_map_of_mem (List.mem_filter.mpr ⟨he, by rw [kind]; rfl⟩)
  | true =>
    refine List.mem_append_right _ ?_
    show _ ∈ filterOutcomes "having" (some Sessions.aggregateFilters) (Sessions.splitFilters r.filters).2
    rw [groups]
    exact List.mem_map_of_mem (List.mem_filter.mpr ⟨he, kind⟩)

/-- **Every filter of a sessions request goes to one clause**, with nothing lost, misplaced or repeated.
    The two parts are sublists and together all filters.  In a list that is built, WHERE holds the condition
    of the window, those of the filters on other columns and the fixed ones, and HAVING those of the filters
    on aggregate columns; each filter contributes to its own clause under a key of its own. -/
theorem SessionsRequest.filters_routed :
    (∀ fs : List Filter, (Sessions.splitFilters fs).1.Sublist fs ∧ (Sessions.splitFilters fs).2.Sublist fs ∧
      ((Sessions.splitFilters fs).1 ++ (Sessions.splitFilters fs).2).Perm fs) ∧
    ∀ (r : SessionsRequest) (q : Query), r.listQuery = .ok q →
      ∃ (window : Option TimeRange) (given : Filter × Nat → Option Condition),
        r.time.resolve "start_time" = .ok window ∧
        q.text = Statement.text {
          columns := Sessions.columns
          table := Sessions.table
          conditions := (window.toList.map TimeRange.condition ++
            (r.filters.zipIdx.filter fun e => !Sessions.isAggregate e.1.column).filterMap given ++
            r.conditions).map Condition.text
          groupBy := ["session_id"]
          groupConditions := ((r.filters.zipIdx.filter fun e =>
            Sessions.isAggregate e.1.column).filterMap given).map Condition.text
          orderBy := [r.order]
          page := pageText r.page.page? } ∧
        (∀ e ∈ r.filters.zipIdx, Sessions.Contributes r.filters e (given e) ∧
          ∀ c ∈ given e, ∀ b ∈ c.bindings, b ∈ q.parameters.entries) ∧
        ∀ e ∈ r.filters.zipIdx, ∀ d ∈ r.filters.zipIdx,
          Sessions.keyOf r.filters e = Sessions.keyOf r.filters d → e = d := by
  refine ⟨Sessions.splitFilters_parts, fun r q built => ?_⟩
  rw [r.listQuery_eq] at built
  obtain ⟨window, resolved, built⟩ := bind_eq_ok built
  have onStart := TimeInput.onColumn_of_resolve resolved
  have agreeing := r.agreeing_selectOf Sessions.plain_columns onStart plain_sessionIds r.plain_order
    r.page.page?
  obtain ⟨rows, groups⟩ := Sessions.outcomes_splitFilters r.filters
  refine ⟨window, Sessions.conditionOf r.filters, resolved, ?_, ?_, ?_⟩
  · rw [Select.text_of_build built, ← Sessions.kept_outcomesOf, ← Sessions.kept_outcomesOf, ← rows, ← groups,
      Select.statement, Select.kept_rowOutcomes]
    rfl
  · intro e he
    have mem := r.mem_outcomes_of_filter Sessions.columns window ["session_id"] [r.order] r.page.page? he
    refine ⟨Sessions.contributes fun error failed => ?_, ?_⟩
    · exact (Select.of_build_eq_ok built).1 error (failed ▸ mem)
    · intro c hc b hb
      have kept : c ∈ kept
          (r.selectOf Sessions.columns window ["session_id"] [r.order] r.page.page?).outcomes :=
        List.mem_filterMap.mpr ⟨_, mem, hc⟩
      rw [agreeing.named.mem_entries built]
      exact List.mem_flatMap.mpr ⟨c, List.mem_append_left _ kept, hb⟩
  · exact fun e he d hd same => Sessions.eq_of_keyOf_eq he hd same

/-- Filters of both kinds, one of which has a value of no use. -/
def SessionsRequest.mixed : SessionsRequest where
  filters := [⟨"trace_count", .gt, .text "3"⟩, ⟨"user_id", .eq, .text "u"⟩, ⟨"duration", .lt, .text "soon"⟩,
    ⟨"total_cost", .lte, .text "0.5"⟩]
  traceIds := []
  time := .none
  sortBy := none
  sortDirection := none
  page := ⟨none, none, none, none⟩

/-- The last filter is the third of its kind, though the second of these is dropped. -/
theorem SessionsRequest.filters_routed_mixed : ∃ q, mixed.listQuery = .ok q ∧
    ∃ c : Condition, c.Paired "having_total_cost_2" ∧ ∀ b ∈ c.bindings, b ∈ q.parameters.entries := by
  have unbounded : ∀ range ∈ (none : Option TimeRange), range.column = "start_time" := by simp
  have agreeing := mixed.agreeing_selectOf Sessions.plain_columns unbounded plain_sessionIds
    mixed.plain_order mixed.page.page?
  have expressible : ((mixed.selectOf Sessions.columns none ["session_id"] [mixed.order]
      mixed.page.page?).outcomes.all fun o => o.isOk) = true := by decide +kernel
  obtain ⟨q, built, -, -⟩ := agreeing.build_of_expressible (Select.expressible_of_isOk expressible)
  have listed : mixed.listQuery = .ok q := by
    have resolved : mixed.time.resolve "start_time" = .ok none := rfl
    rw [listQuery_eq, resolved, Except.bind]
    exact built
  obtain ⟨window, given, -, -, each, -⟩ := filters_routed.2 mixed q listed
  obtain ⟨contributes, bound⟩ := each (⟨"total_cost", .lte, .text "0.5"⟩, 3) (by decide)
  have usable : Sessions.Usable ⟨"total_cost", .lte, .text "0.5"⟩ :=
    ⟨fun h => absurd h (by decide), fun _ => Option.isSome_iff_exists.mp (by decide +kernel)⟩
  obtain ⟨c, gives⟩ := Option.isSome_iff_exists.mp
    (contributes.given_iff.mpr ⟨.inr (by decide +kernel), usable⟩)
  refine ⟨q, listed, c, ?_, bound c gives⟩
  have key : Sessions.keyOf mixed.filters (⟨"total_cost", .lte, .text "0.5"⟩, 3)
      = "having_total_cost_2" := by decide +kernel
  exact key ▸ contributes.paired c gives

end TraceQuery
