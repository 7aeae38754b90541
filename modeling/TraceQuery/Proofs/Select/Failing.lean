/-
  How a select fails.

  1. **Outcomes** (`FailsWith`): an outcome that is one error, known beforehand, or good if there is
     none.  What is done one after the other fails with the first of the errors
     (`FailsWith.bind`).
  2. **Families** (`ColumnFilter.inexpressible`): the operators that a family cannot express are a list
     of its own; the value of a filter has no part in it (`ColumnFilter.operatorText_isOk`).
  3. **Lists of filters** (`firstError_filterOutcomes`): the first error of a list is that of the first
     filter on a known column whose family cannot express the operator.  Dropped filters in front of it
     do not matter.
  4. **Selects** (`Select.Agreeing.failsWith`): the first such filter on rows, then the first on
     groups, and nothing else, stops a select that agrees with itself.

  `FailsWith` says of a step both when it fails and when it does not, so that a chain of steps needs one
  lemma for each step and `FailsWith.bind` in between.

  Mathlib-free.

-/
import TraceQuery.Proofs.Select.Agreeing

namespace TraceQuery

/-! ## Outcomes -/

/-- The outcome is this error, or good if there is none. -/
def FailsWith {ε α : Type} (failure : Option ε) (outcome : Except ε α) : Prop :=
  match failure with
  | some e => outcome = .error e
  | none => ∃ a, outcome = .ok a

namespace FailsWith

variable {ε α β : Type} {failure : Option ε} {x : Except ε α} {e : ε}

/-- An outcome that fails so is an error exactly if this is the one. -/
theorem eq_error_iff (h : FailsWith failure x) : x = .error e ↔ failure = some e := by
  cases failure with
  | some e' =>
    have failed : x = .error e' := h
    rw [failed, Except.error.injEq, Option.some.injEq]
  | none =>
    obtain ⟨a, good⟩ := h
    rw [good]
    simp

/-- An outcome that fails so is good exactly if there is no failure. -/
theorem eq_ok_iff (h : FailsWith failure x) : (∃ a, x = .ok a) ↔ failure = none := by
  cases failure with
  | some e' =>
    have failed : x = .error e' := h
    rw [failed]
    simp
  | none => exact iff_of_true h rfl

/-- What is done second fails only where the first is good. -/
theorem bind {later : Option ε} {next : α → Except ε β} (h : FailsWith failure x)
    (hnext : ∀ a, x = .ok a → FailsWith later (next a)) :
    FailsWith (failure.or later) (x.bind next) := by
  cases failure with
  | some e' =>
    have failed : x = .error e' := h
    show x.bind next = .error e'
    rw [failed]
    rfl
  | none =>
    obtain ⟨a, good⟩ := h
    have after := hnext a good
    rw [good]
    exact after

/-- What is done second and cannot fail changes no failure. -/
theorem bind_good {next : α → Except ε β} (h : FailsWith failure x)
    (hnext : ∀ a, x = .ok a → ∃ b, next a = .ok b) : FailsWith failure (x.bind next) := by
  have whole : FailsWith (failure.or none) (x.bind next) := h.bind hnext
  rw [Option.or_none] at whole
  exact whole

/-- An error that is wrapped is wrapped in the failure, too. -/
theorem mapError {ε' : Type} (h : FailsWith failure x) (wrap : ε → ε') :
    FailsWith (failure.map wrap) (x.mapError wrap) := by
  cases failure with
  | some e =>
    have failed : x = .error e := h
    rw [failed]
    exact rfl
  | none =>
    obtain ⟨a, good⟩ := h
    rw [good]
    exact ⟨a, rfl⟩

end FailsWith

/-! ## Families -/

namespace ColumnFilter

variable {c : ColumnFilter} {f : Filter} {key : String}

/-- The operators that a family cannot express. -/
def inexpressible : ColumnFilter → List Operator
  | string _ => [.has, .notHas]
  | number _ _ | aggregate _ => [.contains, .notContains, .has, .notHas]
  | status _ | keyValue _ => Operator.all.filter fun op => op != .eq && op != .neq
  | array _ _ | custom _ _ => []

/-- A column has a text for an operator exactly if it can express the operator. -/
theorem operatorText_isOk (own : c.isCustom = false) (f : Filter) :
    (c.operatorText f).isOk = !c.inexpressible.contains f.operator := by
  obtain ⟨column, op, value⟩ := f
  cases c with
  | custom condition values => cases own
  | _ => cases op <;> rfl

/-- A filter that is given no condition from outside fails for its operator alone. -/
theorem error?_apply (own : c.isCustom = false) (f : Filter) (key : String) :
    FilterOutcome.error? (c.apply f key)
      = if c.inexpressible.contains f.operator then some f.unsupported else none := by
  have decides := operatorText_isOk own f
  rw [apply_eq own]
  cases written : c.operatorText f with
  | error e =>
    rw [written, Eq.comm, Except.isOk, Except.toBool, Bool.not_eq_false'] at decides
    rw [decides, operatorText_eq_error written]
    rfl
  | ok symbol =>
    rw [written, Eq.comm, Except.isOk, Except.toBool, Bool.not_eq_true'] at decides
    rw [decides]
    rfl

end ColumnFilter

/-! ## Lists of filters -/

/-- Tells whether a filter is on a known column whose family cannot express the operator. -/
def ColumnFilters.refuses (cs : ColumnFilters) (f : Filter) : Bool :=
  match cs.find? f.column with
  | some c => c.inexpressible.contains f.operator
  | none => false

/-- A filter fails if it is refused, and the error names its column and operator. -/
theorem ColumnFilters.error?_build {cs : ColumnFilters} (own : cs.Own) (f : Filter) (key : String) :
    FilterOutcome.error? (cs.build f key)
      = if cs.refuses f then some f.unsupported else none := by
  rw [build, refuses]
  cases found : cs.find? f.column with
  | none => rfl
  | some c => exact ColumnFilter.error?_apply (own.find? found) f key

/-- The first error of a list of filters is that of the first one that is refused. -/
theorem firstError_filterOutcomes {cs : ColumnFilters} (own : cs.Own) (group : String)
    (filters : List Filter) :
    firstError (filterOutcomes group (some cs) filters)
      = (filters.find? cs.refuses).map Filter.unsupported := by
  -- the key of a filter depends on its position; its error does not
  suffices general : ∀ key : Nat → Filter → String,
      firstError (filters.mapIdx fun i f => cs.build f (key i f))
        = (filters.find? cs.refuses).map Filter.unsupported from
    general fun i f => parameterKey group f.column i
  induction filters with
  | nil => exact fun _ => rfl
  | cons f rest ih =>
    intro key
    have later := ih fun i => key (i + 1)
    rw [firstError] at later
    rw [List.mapIdx_cons, firstError, List.findSome?_cons, cs.error?_build own, List.find?_cons]
    cases cs.refuses f with
    | true => rfl
    | false => exact later

/-- Conditions that are given are no errors. -/
theorem firstError_given (cs : List Condition) :
    firstError (cs.map fun c => .ok (some c)) = none := by
  rw [firstError_eq_none_iff]
  intro e he
  obtain ⟨c, _, same⟩ := List.mem_map.mp he
  cases same

/-! ## Selects -/

/-- The filter that stops a select: the first refused one on rows, or else the first on groups. -/
def Select.firstRefused (s : Select) : Option Filter :=
  (s.columnFilters.bind fun cs => s.filters.find? cs.refuses).or
    (s.groupColumnFilters.bind fun cs => s.groupFilters.find? cs.refuses)

namespace Select

variable {s : Select}

/-- The first error of a group of filters, which has none where there are no columns to filter. -/
theorem firstError_group {columns : Option ColumnFilters} (own : ∀ cs ∈ columns, cs.Own)
    (group : String) (filters : List Filter) :
    firstError (filterOutcomes group columns filters)
      = (columns.bind fun cs => filters.find? cs.refuses).map Filter.unsupported := by
  cases columns with
  | none => rfl
  | some cs => exact firstError_filterOutcomes (own cs rfl) group filters

/-- No filter is refused if none of either list is. -/
theorem firstRefused_eq_none_iff : s.firstRefused = none ↔
    (∀ cs ∈ s.columnFilters, ∀ f ∈ s.filters, cs.refuses f = false) ∧
      ∀ cs ∈ s.groupColumnFilters, ∀ f ∈ s.groupFilters, cs.refuses f = false := by
  -- of one list, which may have no columns to filter
  have list (columns : Option ColumnFilters) (fs : List Filter) :
      (columns.bind fun cs => fs.find? cs.refuses) = none ↔
        ∀ cs ∈ columns, ∀ f ∈ fs, cs.refuses f = false := by
    cases columns <;> simp
  rw [firstRefused, Option.or_eq_none_iff, list, list]

/-- The window and the fixed conditions are never at fault. -/
theorem firstError_outcomes (rows : ∀ cs ∈ s.columnFilters, cs.Own)
    (groups : ∀ cs ∈ s.groupColumnFilters, cs.Own) :
    firstError s.outcomes = s.firstRefused.map Filter.unsupported := by
  have window : firstError (s.timeRange.toList.map fun range => .ok (some range.condition)) = none := by
    cases s.timeRange <;> rfl
  rw [outcomes, rowOutcomes, groupOutcomes, firstError_append, firstError_append, firstError_append,
    window, firstError_given, firstError_group rows, firstError_group groups, Option.none_or,
    Option.or_none, firstRefused, Option.map_or]

/-- A select that agrees with itself fails with the first refused filter, and for no other reason. -/
theorem Agreeing.failsWith (h : s.Agreeing) :
    FailsWith (s.firstRefused.map Filter.unsupported) s.build := by
  rw [← firstError_outcomes h.named.rows h.named.groups]
  cases failing : firstError s.outcomes with
  | some e => exact build_of_firstError failing h.named.nodup
  | none =>
    obtain ⟨q, built, _⟩ := h.build_of_expressible (firstError_eq_none_iff.mp failing)
    exact ⟨q, built⟩

end Select

end TraceQuery
