/-
  Dropped filters.

  1. **Dropping** (`ColumnFilters.drops`): a filter is dropped for its column or its value, and then gives
     no condition and no error at whatever position it stands (`ColumnFilters.build_eq_none_iff`).  A
     filter that is neither dropped nor refused gives a condition (`ColumnFilters.exists_build`).
  2. **Collecting** (`collect_insert`): what gives nothing can be put in and left out, so a dropped filter
     in the place of another one, or behind all others, leaves the query as it is, and an error as well
     (`Select.build_set_dropped`, `Select.build_append_dropped`).
  3. **Positions** (`remaining`, `Restores`): without the dropped ones in front of it a filter stands at a
     new position, which its key ends in.  A renaming that carries each key to the one that it had
     gives what the whole list gave (`kept_rename`); the keys tell their positions, so there is such a
     renaming (`moves`, `nodup_moves`).

  Mathlib-free.
-/
import TraceQuery.Proofs.Select.Failing
import TraceQuery.Proofs.Select.Renaming

namespace TraceQuery

open TraceQuery.Sql

/-! ## Dropping -/

/-- Tells whether a filter is dropped: its column is not known, or its value is of no use for the column.
    An operator that the column cannot express is an error, whatever the value is. -/
def ColumnFilters.drops (cs : ColumnFilters) (f : Filter) : Bool :=
  match cs.find? f.column with
  | none => true
  | some c => !c.inexpressible.contains f.operator && !c.keeps f.value

/-- Tells whether a filter of a list is dropped; without columns to filter all are. -/
def dropped (columns : Option ColumnFilters) (f : Filter) : Bool := columns.all fun cs => cs.drops f

namespace ColumnFilters

variable {cs : ColumnFilters} {f : Filter}

/-- What is dropped gives nothing. -/
theorem build_of_drops (own : cs.Own) (h : cs.drops f = true) (key : String) :
    cs.build f key = .ok none := by
  rw [drops] at h
  rw [build]
  cases found : cs.find? f.column with
  | none => rfl
  | some c =>
    rw [found, Bool.and_eq_true, ← ColumnFilter.operatorText_isOk (own.find? found),
      Bool.not_eq_true'] at h
    show c.apply f key = .ok none
    rw [ColumnFilter.apply_eq (own.find? found), h.2]
    cases written : c.operatorText f with
    | error e =>
      rw [written] at h
      cases h.1
    | ok symbol => rfl

/-- A filter that is neither refused nor dropped gives a condition. -/
theorem exists_build (own : cs.Own) (accepted : cs.refuses f = false) (used : cs.drops f = false)
    (key : String) : ∃ c, cs.build f key = .ok (some c) := by
  rw [drops] at used
  rw [refuses] at accepted
  rw [build]
  cases found : cs.find? f.column with
  | none =>
    rw [found] at used
    cases used
  | some c =>
    rw [found] at used accepted
    -- the column is known, and the operator is one that it can express
    have expressible : c.inexpressible.contains f.operator = false := accepted
    have kept : c.keeps f.value = true := by
      have used : (!c.inexpressible.contains f.operator && !c.keeps f.value) = false := used
      rw [expressible] at used
      simpa using used
    have good : (c.operatorText f).isOk = true := by
      rw [ColumnFilter.operatorText_isOk (own.find? found), expressible]
      rfl
    show ∃ cond, c.apply f key = .ok (some cond)
    rw [ColumnFilter.apply_eq (own.find? found), kept]
    cases written : c.operatorText f with
    | error e =>
      rw [written] at good
      cases good
    | ok symbol => exact ⟨_, rfl⟩

/-- Dropped filters are those that give nothing. -/
theorem build_eq_none_iff (own : cs.Own) (key : String) :
    cs.build f key = .ok none ↔ cs.drops f = true := by
  refine ⟨fun nothing => ?_, fun drops => build_of_drops own drops key⟩
  cases used : cs.drops f with
  | true => rfl
  | false =>
    cases accepted : cs.refuses f with
    | true =>
      have failing := cs.error?_build own f key
      rw [nothing, accepted] at failing
      cases failing
    | false =>
      obtain ⟨c, given⟩ := exists_build own accepted used key
      rw [nothing] at given
      cases given

end ColumnFilters

/-! ## Collecting -/

/-- What gives nothing can be left out. -/
theorem collect_insert {nothing : List FilterOutcome} (h : ∀ o ∈ nothing, o = .ok none)
    (p : Parameters) (xs ys : List FilterOutcome) :
    collect p (xs ++ nothing ++ ys) = collect p (xs ++ ys) := by
  -- along what is in front, with whatever has been bound by then
  induction xs generalizing p with
  | nil =>
    induction nothing with
    | nil => rfl
    | cons o nothing ih =>
      rw [h o List.mem_cons_self]
      exact ih fun o ho => h o (List.mem_cons_of_mem _ ho)
  | cons o xs ih =>
    cases o with
    | error e => rfl
    | ok c? =>
      cases c? with
      | none => exact ih p
      | some c =>
        show (p.bindAll c.bindings).bind (fun q => (collect q (xs ++ nothing ++ ys)).bind _) = _
        simp only [ih]
        rfl

section

variable {columns : Option ColumnFilters} {group : String} {fs : List Filter} {f : Filter}

/-- Another dropped filter in the place of one gives the same. -/
theorem filterOutcomes_set (own : ∀ cs ∈ columns, cs.Own) {i : Nat} (hi : i < fs.length)
    (hf : dropped columns fs[i] = true) {g : Filter} (hg : dropped columns g = true) :
    filterOutcomes group columns (fs.set i g) = filterOutcomes group columns fs := by
  cases columns with
  | none => rfl
  | some cs =>
    show (fs.set i g).mapIdx _ = fs.mapIdx _
    refine List.ext_getElem (by simp) fun j hj hj' => ?_
    rw [List.getElem_mapIdx, List.getElem_mapIdx, List.getElem_set]
    split
    · rename_i same
      subst same
      rw [cs.build_of_drops (own cs rfl) hf, cs.build_of_drops (own cs rfl) hg]
    · rfl

/-- Dropped filters behind all others add outcomes that give nothing. -/
theorem filterOutcomes_append_dropped (own : ∀ cs ∈ columns, cs.Own) (group : String)
    (fs : List Filter) {ds : List Filter} (hds : ∀ d ∈ ds, dropped columns d = true) :
    ∃ nothing, filterOutcomes group columns (fs ++ ds) = filterOutcomes group columns fs ++ nothing ∧
      ∀ o ∈ nothing, o = .ok none := by
  cases columns with
  | none => exact ⟨[], rfl, fun o ho => absurd ho List.not_mem_nil⟩
  | some cs =>
    refine ⟨_, List.mapIdx_append, ?_⟩
    intro o ho
    obtain ⟨i, hi, rfl⟩ := List.mem_mapIdx.mp ho
    exact cs.build_of_drops (own cs rfl) (hds _ (List.getElem_mem hi)) _

/-- A filter behind all others that gives a condition adds it behind theirs. -/
theorem kept_append_filter {cs : ColumnFilters} {c : Condition}
    (given : cs.build f (parameterKey group f.column fs.length) = .ok (some c)) :
    kept (filterOutcomes group (some cs) (fs ++ [f]))
      = kept (filterOutcomes group (some cs) fs) ++ [c] := by
  show kept ((fs ++ [f]).mapIdx _) = _
  rw [List.mapIdx_concat, given, kept_append]
  rfl

end

namespace Select

variable {s : Select}

/-- The select with other filters. -/
def withFilters (s : Select) (rows groups : List Filter) : Select :=
  { s with filters := rows, groupFilters := groups }

/-- Of its filters a select sees the outcomes only. -/
theorem build_withFilters {rows groups : List Filter}
    (hr : ∀ p, collect p (s.withFilters rows groups).rowOutcomes = collect p s.rowOutcomes)
    (hg : ∀ p, collect p (s.withFilters rows groups).groupOutcomes = collect p s.groupOutcomes) :
    (s.withFilters rows groups).build = s.build := by
  rw [build, build, assemble, assemble]
  simp only [hr, hg]
  rfl

/-- Another dropped filter in the place of one changes nothing. -/
theorem build_set_dropped (rows : ∀ cs ∈ s.columnFilters, cs.Own)
    (groups : ∀ cs ∈ s.groupColumnFilters, cs.Own) :
    (∀ (i : Nat) (hi : i < s.filters.length) (f : Filter), dropped s.columnFilters s.filters[i] = true →
      dropped s.columnFilters f = true →
      (s.withFilters (s.filters.set i f) s.groupFilters).build = s.build) ∧
    ∀ (i : Nat) (hi : i < s.groupFilters.length) (f : Filter),
      dropped s.groupColumnFilters s.groupFilters[i] = true → dropped s.groupColumnFilters f = true →
      (s.withFilters s.filters (s.groupFilters.set i f)).build = s.build := by
  refine ⟨fun i hi f old new => build_withFilters (fun p => ?_) fun p => rfl,
    fun i hi f old new => build_withFilters (fun p => rfl) fun p => ?_⟩
  · rw [rowOutcomes, rowOutcomes]
    show collect p (_ ++ filterOutcomes "filter" s.columnFilters (s.filters.set i f) ++ _) = _
    rw [filterOutcomes_set rows hi old new]
    rfl
  · show collect p (filterOutcomes "having" s.groupColumnFilters (s.groupFilters.set i f)) = _
    rw [filterOutcomes_set groups hi old new]
    rfl

/-- Dropped filters behind all others change nothing. -/
theorem build_append_dropped (rows : ∀ cs ∈ s.columnFilters, cs.Own)
    (groups : ∀ cs ∈ s.groupColumnFilters, cs.Own) {ds es : List Filter}
    (hds : ∀ d ∈ ds, dropped s.columnFilters d = true)
    (hes : ∀ e ∈ es, dropped s.groupColumnFilters e = true) :
    (s.withFilters (s.filters ++ ds) (s.groupFilters ++ es)).build = s.build := by
  refine build_withFilters (fun p => ?_) fun p => ?_
  · obtain ⟨nothing, more, h⟩ := filterOutcomes_append_dropped rows "filter" s.filters hds
    rw [rowOutcomes, rowOutcomes]
    show collect p (_ ++ filterOutcomes "filter" s.columnFilters (s.filters ++ ds) ++ _) = _
    rw [more, ← List.append_assoc]
    exact collect_insert h p _ _
  · obtain ⟨nothing, more, h⟩ := filterOutcomes_append_dropped groups "having" s.groupFilters hes
    show collect p (filterOutcomes "having" s.groupColumnFilters (s.groupFilters ++ es)) = _
    have inserted := collect_insert h p (filterOutcomes "having" s.groupColumnFilters s.groupFilters) []
    rwa [List.append_nil, List.append_nil, ← more] at inserted

end Select

/-! ## Positions -/

/-- The names that may be bound under a key. -/
def namesUnder (key : String) : List String := [key, boundName key "KEY", boundName key "VAL"]

theorem mem_namesUnder {key n : String} : n ∈ namesUnder key ↔ NamedUnder key n := by
  simp [namesUnder, NamedUnder]

/-- The names under a key differ: two of them end in a letter of their own, and the key in its position. -/
theorem nodup_namesUnder (group column : String) (i : Nat) :
    (namesUnder (parameterKey group column i)).Nodup := by
  have other {name : String} {c : Char} {cs : List Char} (hc : c.isDigit = false)
      (last : lastPart (boundName (parameterKey group column i) name) = c :: cs) :
      parameterKey group column i ≠ boundName (parameterKey group column i) name := fun same =>
    lastPart_parameterKey_ne group column i hc ((congrArg lastPart same).trans last)
  have first := other (by decide) (lastPart_first _)
  have second := other (by decide) (lastPart_second _)
  have third : boundName (parameterKey group column i) "KEY"
      ≠ boundName (parameterKey group column i) "VAL" := by
    intro same
    have parts := (lastPart_first _).symm.trans ((congrArg lastPart same).trans (lastPart_second _))
    exact absurd parts (by decide)
  simp [namesUnder, first, second, third]

/-- The filters that are not dropped, each with its position among all filters. -/
def remaining (columns : Option ColumnFilters) (fs : List Filter) : List (Filter × Nat) :=
  fs.zipIdx.filter fun e => !dropped columns e.1

/-- A renaming of the parameters of the filters that are not dropped: from their positions among
    themselves to their positions among all filters. -/
def Restores (group : String) (columns : Option ColumnFilters) (fs : List Filter)
    (ρ : String → String) : Prop :=
  ∀ (j : Nat) (h : j < (remaining columns fs).length),
    Carries ρ (parameterKey group (remaining columns fs)[j].1.column j)
      (parameterKey group (remaining columns fs)[j].1.column (remaining columns fs)[j].2)

/-- The names of the filters that are not dropped: those at their positions among themselves, with those
    at their positions among all filters. -/
def moves (group : String) (columns : Option ColumnFilters) (fs : List Filter) :
    List (String × String) :=
  ((remaining columns fs).mapIdx fun j e =>
    (namesUnder (parameterKey group e.1.column j)).zip
      (namesUnder (parameterKey group e.1.column e.2))).flatten

section

variable {columns : Option ColumnFilters} {group : String} {fs : List Filter}

/-- The remaining filters are those that are not dropped, in their order. -/
theorem map_remaining (columns : Option ColumnFilters) (fs : List Filter) :
    (remaining columns fs).map Prod.fst = fs.filter fun f => !dropped columns f := by
  have whole := List.filter_map (f := Prod.fst) (p := fun f => !dropped columns f) (l := fs.zipIdx)
  rw [List.zipIdx_map_fst] at whole
  exact whole.symm

/-- The names that are moved are those at the positions among the filters that are left. -/
theorem map_moves : (moves group columns fs).map Prod.fst
    = ((remaining columns fs).mapIdx fun j e => namesUnder (parameterKey group e.1.column j)).flatten := by
  rw [moves, List.map_flatten]
  refine congrArg List.flatten (List.ext_getElem (by simp) fun j hj hj' => ?_)
  simp only [List.getElem_map, List.getElem_mapIdx]
  exact List.map_fst_zip (Nat.le_refl 3)

/-- What moves is a name under the key of a filter. -/
theorem namedUnder_of_moves {n : String} (hn : n ∈ (moves group columns fs).map Prod.fst) :
    ∃ column i, NamedUnder (parameterKey group column i) n := by
  rw [map_moves] at hn
  obtain ⟨names, hnames, hn⟩ := List.mem_flatten.mp hn
  obtain ⟨j, hj, rfl⟩ := List.mem_mapIdx.mp hnames
  exact ⟨_, j, mem_namesUnder.mp hn⟩

/-- A name moves to one place only. -/
theorem nodup_moves : ((moves group columns fs).map Prod.fst).Nodup := by
  rw [map_moves, List.Nodup, List.pairwise_flatten]
  -- within one filter the names differ, and two filters stand at different positions
  refine ⟨?_, ?_⟩
  · intro names hnames
    obtain ⟨j, hj, rfl⟩ := List.mem_mapIdx.mp hnames
    exact nodup_namesUnder _ _ _
  · rw [List.pairwise_iff_getElem]
    intro i j hi hj lt x hx y hy same
    rw [List.getElem_mapIdx] at hx hy
    have := (mem_namesUnder.mp hx).position (mem_namesUnder.mp (same ▸ hy))
    omega

/-- A renaming that follows the moves gives the filters that are left the positions that they had. -/
theorem restores_of_moves {ρ : String → String} (follows : ∀ e ∈ moves group columns fs, ρ e.1 = e.2) :
    Restores group columns fs ρ := by
  intro j hj
  have among {e : String × String}
      (he : e ∈ (namesUnder (parameterKey group (remaining columns fs)[j].1.column j)).zip
        (namesUnder (parameterKey group (remaining columns fs)[j].1.column (remaining columns fs)[j].2))) :
      ρ e.1 = e.2 :=
    follows e (List.mem_flatten.mpr ⟨_, List.mem_mapIdx.mpr ⟨j, hj, rfl⟩, he⟩)
  exact ⟨among List.mem_cons_self, among (List.mem_cons_of_mem _ List.mem_cons_self),
    among (List.mem_cons_of_mem _ (List.mem_cons_of_mem _ List.mem_cons_self))⟩

/-- What gives nothing can be taken out beforehand. -/
theorem filterMap_filter_of_none {α β : Type} {es : List α} {q : α → Bool} {give : α → Option β}
    (nothing : ∀ e ∈ es, q e = false → give e = none) :
    (es.filter q).filterMap give = es.filterMap give := by
  induction es with
  | nil => rfl
  | cons e es ih =>
    have later := ih fun e he => nothing e (List.mem_cons_of_mem _ he)
    rw [List.filter_cons]
    cases left : q e with
    | true => rw [if_pos rfl, List.filterMap_cons, later, List.filterMap_cons]
    | false =>
      rw [if_neg Bool.false_ne_true, later,
        List.filterMap_cons_none (nothing e List.mem_cons_self left)]

/-- Under the names that they had, the filters that are left give what all filters gave. -/
theorem kept_rename (hg : isName group.toList = true) (silent : ∀ cs ∈ columns, cs.Silent)
    {ρ : String → String} (restores : Restores group columns fs ρ) :
    (kept (filterOutcomes group columns (fs.filter fun f => !dropped columns f))).map
      (Condition.rename ρ) = kept (filterOutcomes group columns fs) := by
  cases columns with
  | none => rfl
  | some cs =>
    have silent := silent cs rfl
    let given (e : Filter × Nat) : Option Condition :=
      FilterOutcome.condition? (cs.build e.1 (parameterKey group e.1.column e.2))
    have kept_eq (fs : List Filter) :
        kept (filterOutcomes group (some cs) fs) = fs.zipIdx.filterMap given := by
      show (fs.mapIdx _).filterMap _ = _
      rw [List.mapIdx_eq_zipIdx_map, List.filterMap_map]
      rfl
    -- one by one, the filters that are left at their new positions and at those that they had
    have each : (fs.filter fun f => !cs.drops f).zipIdx.map (fun e => (given e).map (Condition.rename ρ))
        = (remaining (some cs) fs).map given := by
      have left : (remaining (some cs) fs).map Prod.fst = fs.filter fun f => !cs.drops f :=
        map_remaining _ fs
      rw [← left]
      refine List.ext_getElem (by simp) fun j hj hj' => ?_
      simp only [List.getElem_map, List.getElem_zipIdx, Nat.zero_add]
      exact cs.build_rename silent (isName_parameterKey hg _ _)
        (restores j (by simpa using hj')) _
    have gone : ∀ e ∈ fs.zipIdx, (!cs.drops e.1) = false → given e = none := by
      intro e he drops
      show FilterOutcome.condition? _ = none
      rw [cs.build_of_drops silent.own (by simpa using drops)]
      rfl
    calc (kept (filterOutcomes group (some cs) (fs.filter fun f => !cs.drops f))).map (Condition.rename ρ)
        = ((fs.filter fun f => !cs.drops f).zipIdx.map fun e =>
            (given e).map (Condition.rename ρ)).filterMap id := by
          rw [kept_eq, List.map_filterMap, List.filterMap_map]
          rfl
      _ = (remaining (some cs) fs).filterMap given := by
          rw [each, List.filterMap_map]
          rfl
      _ = kept (filterOutcomes group (some cs) fs) := by
          rw [kept_eq]
          exact filterMap_filter_of_none gone

end

end TraceQuery
