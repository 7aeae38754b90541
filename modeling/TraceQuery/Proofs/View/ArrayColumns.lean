/-
  What a filter on an array column looks for.

  The condition `has(tags, …)` names the type of the elements, and the value is read by a coarser rule: as a
  number if the type is numeric, signed or not, and as text if it is anything else.

  1. **Types** (`ParamValue.isOf`): every type has its values, an array those that are lists of texts.
  2. **One filter** (`memberValue_isOf_iff`): the value that is looked for has the type of the elements, unless
     these are arrays themselves, for which a single text is bound, or are unsigned and the value is
     negative.
  3. **Columns** (`find?_ofList`, `find?_columnFilters`): of several columns with one id the last one that can
     be filtered holds.  So a filter on an array column of a run is the filter of `filterColumn?`, with the
     same exceptions (`array_member_isOf_iff`).
-/
import Mathlib.Data.List.Induction
import TraceQuery.Proofs.Filter.Typing
import TraceQuery.View.Evaluations

namespace TraceQuery

open TraceQuery.Sql

/-! ## Types -/

namespace Sql.ColumnType

/-- Tells whether the type is one of arrays. -/
def isArray : ColumnType → Bool
  | array _ => true
  | _ => false

end Sql.ColumnType

/-- Tells whether a value is one of a type. -/
def ParamValue.isOf : ParamValue → ColumnType → Bool
  | string _, .string => true
  | string _, .uuid => true
  | float (.finite _), .float64 => true
  | int n, .int64 => fitsInteger n
  | int n, .uint64 => 0 ≤ n && fitsInteger n
  | strings _, .array _ => true
  | _, _ => false

/-! ## One filter -/

variable {element : ColumnType} {f : Filter} {key : String} {v : ParamValue}

/-- The values that are read as something else than an element: all of them if the elements are arrays, and
    the negative ones if they are unsigned. -/
def Misread (element : ColumnType) (value : FilterValue) : Prop :=
  element.isArray = true ∨ element = .uint64 ∧ ∃ n, value.toInteger? = some n ∧ n < 0

/-- A member that is looked for has the type of the elements if it is not misread. -/
theorem memberValue_isOf_iff {value : FilterValue} (read : memberValue? element value = some v) :
    v.isOf element = true ↔ ¬ Misread element value := by
  -- type by type; only unsigned elements look at the value, and only arrays fail for all of them
  cases element with
  | string | uuid =>
    rw [← Option.some.inj read]
    simp [ParamValue.isOf, Misread, ColumnType.isArray]
  | float64 =>
    obtain ⟨x, _, rfl⟩ := Option.map_eq_some_iff.mp read
    simp [ParamValue.isOf, Misread, ColumnType.isArray]
  | int64 =>
    obtain ⟨n, whole, rfl⟩ := Option.map_eq_some_iff.mp read
    simp [ParamValue.isOf, Misread, ColumnType.isArray, FilterValue.fits_toInteger whole]
  | uint64 =>
    obtain ⟨n, whole, rfl⟩ := Option.map_eq_some_iff.mp read
    simp [ParamValue.isOf, Misread, ColumnType.isArray, FilterValue.fits_toInteger whole, whole]
  | array element =>
    rw [← Option.some.inj read]
    simp [ParamValue.isOf, Misread, ColumnType.isArray]

/-- A condition that asks whether a value is a member or is none: its text names the type of the elements,
    and the value is all that it binds. -/
structure Condition.Asks (cond : Condition) (sql key : String) (element : ColumnType) (v : ParamValue) :
    Prop where
  /-- It binds the value under its key. -/
  bindings : cond.bindings = [(key, v)]
  /-- It asks whether the value is a member, or whether it is none. -/
  text : ∃ negation ∈ ["", "NOT "],
    cond.text = negation ++ ("has(" ++ sql ++ ", " ++ placeholder key element ++ ")")

/-- A filter on an array asks for the value that it is read with. -/
theorem ColumnFilter.asks_of_apply {sql : String} {cond : Condition}
    (h : (array sql element).apply f key = .ok (some cond)) :
    ∃ v, memberValue? element f.value = some v ∧ cond.Asks sql key element v := by
  obtain ⟨negation, word, kept, rfl⟩ := (apply_eq_some rfl).mp h
  obtain ⟨v, read⟩ := Option.isSome_iff_exists.mp kept
  refine ⟨v, read, ?_, negation, ?_, rfl⟩
  · simp only [boundValues, read]
    rfl
  · simp only [operatorText] at word
    split at word <;> simp [← Except.ok.inj word]

/-! ## Columns -/

namespace ColumnFilters

variable {cs : ColumnFilters} {c : ColumnFilter} {column other : String}

/-- A filter that is added to one column leaves the others as they are. -/
theorem find?_insert_other (apart : column ≠ other) : (cs.insert column c).find? other = cs.find? other := by
  obtain ⟨entries⟩ := cs
  simp only [insert, find?]
  induction entries with
  | nil => simp [insertEntry, apart]
  | cons e rest ih =>
    obtain ⟨name, filter⟩ := e
    by_cases own : name = column
    · simp [insertEntry, own, apart]
    · have step : insertEntry column c ((name, filter) :: rest)
          = (name, filter) :: insertEntry column c rest := if_neg own
      rw [step, List.find?_cons, List.find?_cons]
      cases name == other with
      | true => rfl
      | false => exact ih

/-- Of two filters on one column the later one holds. -/
theorem find?_ofList (entries : List (String × ColumnFilter)) (column : String) :
    (ofList entries).find? column = (entries.reverse.find? fun e => e.1 == column).map Prod.snd := by
  -- from the end, as the last entry is the last to be inserted
  induction entries using List.reverseRecOn with
  | nil => rfl
  | append_singleton entries e ih =>
    have last : ofList (entries ++ [e]) = (ofList entries).insert e.1 e.2 := by
      rw [ofList, List.foldl_append]
      rfl
    rw [last, List.reverse_append, List.reverse_singleton, List.singleton_append, List.find?_cons]
    by_cases own : e.1 = column
    · subst own
      rw [find?_insert_self, beq_self_eq_true]
      rfl
    · rw [find?_insert_other own, ih, beq_false_of_ne own]

end ColumnFilters

namespace Evaluation

/-- The column that a filter looks at: of those with its id the last one that can be filtered. -/
def filterColumn? (columns : List EvalColumn) (id : String) : Option EvalColumn :=
  columns.reverse.find? fun c => c.id == id && c.filter?.isSome

/-- The filter of a column is made from the one that a filter looks at. -/
theorem find?_columnFilters (columns : List EvalColumn) (id : String) :
    (columnFilters columns).find? id = (filterColumn? columns id).bind EvalColumn.filter? := by
  have known (c : EvalColumn) : ((c.filter?.map fun f => (c.id, f)).any fun e => e.1 == id)
      = (c.id == id && c.filter?.isSome) := by
    cases c.filter? with
    | none => simp
    | some f => simp
  rw [columnFilters, ColumnFilters.find?_ofList, ← List.filterMap_reverse, List.find?_filterMap, filterColumn?]
  simp only [known]
  cases columns.reverse.find? fun c => c.id == id && c.filter?.isSome with
  | none => rfl
  | some c =>
    rw [Option.bind_some, Option.bind_some, Option.map_map]
    exact Option.map_id'

/-- A filter on an array column is the array filter over its expression. -/
theorem build_columnFilters_array {columns : List EvalColumn} {c : EvalColumn}
    (holds : filterColumn? columns f.column = some c) (type : c.type = some (.array element)) :
    (columnFilters columns).build f key = (ColumnFilter.array c.filterExpression element).apply f key := by
  have filter : c.filter? = some (.array c.filterExpression element) := by
    rw [EvalColumn.filter?, type]
  rw [ColumnFilters.build, find?_columnFilters, holds, Option.bind_some, filter]

/-- What an array filter binds has the type of the elements, alone or as the filter of a column of a run,
    unless the elements are arrays themselves, or are unsigned and the value is a negative number. -/
theorem array_member_isOf_iff (element : ColumnType) (f : Filter) (key : String) :
    (∀ sql cond, (ColumnFilter.array sql element).apply f key = .ok (some cond) →
      ∃ v, cond.Asks sql key element v ∧ (v.isOf element = true ↔ ¬ Misread element f.value)) ∧
    (∀ columns c, filterColumn? columns f.column = some c → c.type = some (.array element) →
      ∀ cond, (columnFilters columns).build f key = .ok (some cond) →
      ∃ v, cond.Asks c.filterExpression key element v ∧
        (v.isOf element = true ↔ ¬ Misread element f.value)) := by
  have alone (sql : String) (cond : Condition)
      (h : (ColumnFilter.array sql element).apply f key = .ok (some cond)) :
      ∃ v, cond.Asks sql key element v ∧ (v.isOf element = true ↔ ¬ Misread element f.value) := by
    obtain ⟨v, read, asks⟩ := ColumnFilter.asks_of_apply h
    exact ⟨v, asks, memberValue_isOf_iff read⟩
  refine ⟨alone, fun columns c holds type cond h => ?_⟩
  rw [build_columnFilters_array holds type] at h
  exact alone _ cond h

/-- A column of unsigned numbers behind a column of text with the same id. -/
def labels : List EvalColumn :=
  [.typed "labels" "dp.name" .string, .typed "labels" "dp.labels" (.array .uint64)]

/-- The column of text is not looked at, and the number is one of the type. -/
theorem array_member_isOf_labels :
    ∃ cond v, (columnFilters labels).build ⟨"labels", .notHas, .text " 7"⟩ "k" = .ok (some cond) ∧
      cond.Asks "dp.labels" "k" .uint64 v ∧ v.isOf .uint64 = true := by
  have read : (FilterValue.text " 7").toInteger? = some 7 := by decide
  have whole : ¬ Misread .uint64 (.text " 7") := by
    rintro (nested | ⟨_, n, negative, below⟩)
    · cases nested
    · rw [read] at negative
      cases negative
      exact absurd below (by decide)
  have built : (columnFilters labels).build ⟨"labels", .notHas, .text " 7"⟩ "k"
      = .ok (some ⟨"NOT has(dp.labels, \x7bk:UInt64\x7d)", [("k", .int 7)]⟩) := by decide
  obtain ⟨v, asks, typed⟩ := (array_member_isOf_iff .uint64 ⟨"labels", .notHas, .text " 7"⟩ "k").2
    labels (.typed "labels" "dp.labels" (.array .uint64)) rfl rfl _ built
  exact ⟨_, v, built, asks, typed.mpr whole⟩

/-- A negative number for unsigned elements, and a text for elements that are lists. -/
theorem array_member_not_isOf :
    ((columnFilters [.typed "labels" "dp.labels" (.array .uint64)]).build ⟨"labels", .has, .text "-1"⟩ "k"
        = .ok (some ⟨"has(dp.labels, \x7bk:UInt64\x7d)", [("k", .int (-1))]⟩) ∧
      (ParamValue.int (-1)).isOf .uint64 = false) ∧
    ((columnFilters [.typed "labels" "dp.labels" (.array (.array .string))]).build ⟨"labels", .has, .text "a"⟩ "k"
        = .ok (some ⟨"has(dp.labels, \x7bk:Array(String)\x7d)", [("k", .string "a")]⟩) ∧
      (ParamValue.string "a").isOf (.array .string) = false) := by
  decide

end Evaluation

end TraceQuery
