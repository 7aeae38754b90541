/-
  What a filter writes, in three parts.

  The condition of a filter depends on its operator, on whether its value is of use, and on what is
  written around the two.  For every family but the custom one the three do not look at one another:

  1. **Operator** (`ColumnFilter.operatorText`): the symbol or keyword that the operator stands for.
     This is the only part that can fail, and the error is always the same
     (`ColumnFilter.operatorText_eq_error`).  What comes out is one of a few texts
     (`ColumnFilter.mem_operatorTexts`).
  2. **Value** (`ColumnFilter.keeps`): a filter whose value is of no use is dropped; a filter that is
     kept binds the names `ColumnFilter.boundNames` (`ColumnFilter.boundValues_names`).
  3. **Text** (`ColumnFilter.written`): the condition, made of the column, the operator's text and
     placeholders under the filter's key.

  `ColumnFilter.conditionText_eq` puts the parts together, and `ColumnFilter.apply_eq` adds the values.
  Every result about conditions is one about these parts.

  Mathlib-free.
-/
import TraceQuery.Filter.Column
import TraceQuery.Proofs.Query.Key

namespace TraceQuery

open TraceQuery.Sql

/-! ## Operators -/

namespace Filter

variable {f : Filter} {symbol : String} {e : QueryError}

/-- A comparison fails only at an operator that it does not know. -/
theorem comparison_eq_error (h : f.comparison = .error e) : e = f.unsupported := by
  simp only [comparison] at h
  split at h
  · cases h
  · exact (Except.error.inj h).symm

theorem equality_eq_error (h : f.equality = .error e) : e = f.unsupported := by
  simp only [equality] at h
  split at h
  · cases h
  · cases h
  · exact (Except.error.inj h).symm

/-- The symbols that compare. -/
def symbols : List String := ["=", "!=", ">", ">=", "<", "<="]

/-- A comparison is written with one of the symbols. -/
theorem mem_symbols_of_comparison (h : f.comparison = .ok symbol) : symbol ∈ symbols := by
  obtain ⟨column, op, value⟩ := f
  simp only [comparison] at h
  cases op <;> simp only [Operator.symbol?, Except.ok.injEq, reduceCtorEq] at h <;> subst h <;> decide

theorem mem_symbols_of_equality (h : f.equality = .ok symbol) : symbol ∈ symbols := by
  simp only [equality] at h
  split at h
  · rw [← Except.ok.inj h]
    decide
  · rw [← Except.ok.inj h]
    decide
  · cases h

end Filter

/-! ## The three parts -/

namespace ColumnFilter

variable {c : ColumnFilter} {f g : Filter} {key : String}

/-- Tells whether the halves of the filter are given from outside. -/
def isCustom : ColumnFilter → Bool
  | custom _ _ => true
  | _ => false

/-- The symbol or keyword that stands for the operator. -/
def operatorText : ColumnFilter → Filter → Except QueryError String
  | string _, f =>
    match f.operator with
    | .contains => .ok "ILIKE"
    | .notContains => .ok "NOT ILIKE"
    | _ => f.comparison
  | array _ _, f =>
    match f.operator with
    | .eq | .has => .ok ""
    | _ => .ok "NOT "
  | number _ _, f => f.comparison
  | status _, f => f.equality
  | keyValue _, f => f.equality
  | aggregate _, f => f.comparison
  | custom _ _, f => f.comparison

/-- Tells whether the value is of use for the column. -/
def keeps : ColumnFilter → FilterValue → Bool
  | number _ type, v => (type.coerce v).isSome
  | array _ element, v => (memberValue? element v).isSome
  | keyValue _, v => v.keyAndValue?.isSome
  | aggregate _, v => v.toFinite?.isSome
  | _, _ => true

/-- A column compared with a placeholder. -/
def compared (sql symbol key : String) (type : ColumnType) : String :=
  sql ++ " " ++ symbol ++ " " ++ placeholder key type

/-- The condition around the text of an operator. -/
def written : ColumnFilter → Filter → String → String → String
  | string sql, _, key, symbol => compared sql symbol key .string
  | number sql type, _, key, symbol => compared sql symbol key type.columnType
  | array sql element, _, key, negation =>
    negation ++ ("has(" ++ sql ++ ", " ++ placeholder key element ++ ")")
  | status sql, f, key, symbol =>
    match f.value.statusAlias? with
    | some outcome => sql ++ (if asksForError f.operator outcome then " = " else " != ") ++ "'error'"
    | none => compared sql symbol key .string
  | keyValue sql, _, key, symbol => (keyValueTemplate sql symbol).bindTo key
  | aggregate sql, _, key, symbol => compared sql symbol key .float64
  | custom _ _, _, _, symbol => symbol

/-- A condition is put together from the three parts. -/
theorem conditionText_eq (own : c.isCustom = false) (f : Filter) (key : String) :
    c.conditionText f key = (c.operatorText f).map fun symbol =>
      bif c.keeps f.value then some (c.written f key symbol) else none := by
  -- each family makes its condition in one go; its branches are those of the parts
  cases c with
  | string sql =>
    -- the search words stand between blanks, like a symbol
    have worded {word mark : String} (h : mark = " " ++ (word ++ " ")) :
        sql ++ mark ++ placeholder key .string = compared sql word key .string := by
      rw [h, compared]
      simp only [String.append_assoc]
    obtain ⟨column, op, value⟩ := f
    cases op with
    | contains => exact congrArg (Except.ok ∘ some) (worded rfl)
    | notContains => exact congrArg (Except.ok ∘ some) (worded rfl)
    | _ => rfl
  | number sql type =>
    rw [conditionText, operatorText]
    cases f.comparison with
    | error e => rfl
    | ok symbol =>
      simp only [keeps]
      cases type.coerce f.value with
      | none => rfl
      | some v => rfl
  | array sql element =>
    have bare : "" ++ ("has(" ++ sql ++ ", " ++ placeholder key element ++ ")")
        = "has(" ++ sql ++ ", " ++ placeholder key element ++ ")" := String.empty_append
    obtain ⟨column, op, value⟩ := f
    simp only [conditionText, keeps]
    -- an array looks at the value first, but its operator cannot fail, so the order does not matter
    cases memberValue? element value with
    | none => cases op <;> rfl
    | some v =>
      cases op with
      | eq => exact congrArg (Except.ok ∘ some) bare.symm
      | has => exact congrArg (Except.ok ∘ some) bare.symm
      | _ => rfl
  | status sql =>
    rw [conditionText, operatorText]
    cases f.equality with
    | error e => rfl
    | ok symbol =>
      show _ = Except.ok (some (written _ f key symbol))
      rw [written]
      cases f.value.statusAlias? with
      | none => rfl
      | some outcome => rfl
  | keyValue sql =>
    rw [conditionText, operatorText]
    cases f.equality with
    | error e => rfl
    | ok symbol =>
      simp only [keeps]
      cases f.value.keyAndValue? with
      | none => rfl
      | some kv => rfl
  | aggregate sql =>
    rw [conditionText, operatorText]
    cases f.comparison with
    | error e => rfl
    | ok symbol =>
      simp only [keeps]
      cases f.value.toFinite? with
      | none => rfl
      | some x => rfl
  | custom condition values => cases own

/-- A filter that is kept has its condition and its values. -/
theorem apply_eq (own : c.isCustom = false) (f : Filter) (key : String) :
    c.apply f key = (c.operatorText f).map fun symbol =>
      bif c.keeps f.value then some ⟨c.written f key symbol, c.boundValues f key⟩ else none := by
  show (c.conditionText f key).bind _ = _
  rw [conditionText_eq own]
  cases c.operatorText f with
  | error e => rfl
  | ok symbol =>
    cases kept : c.keeps f.value with
    | false => rfl
    | true => rfl

/-- A filter fails exactly where its operator does: no value is refused. -/
theorem apply_eq_error (own : c.isCustom = false) {e : QueryError} :
    c.apply f key = .error e ↔ c.operatorText f = .error e := by
  rw [apply_eq own]
  cases c.operatorText f with
  | error e' => simp [Except.map]
  | ok symbol => simp [Except.map]

/-- A filter is kept if its operator is known and its value is of use, and then it is put together from the
    parts. -/
theorem apply_eq_some (own : c.isCustom = false) {cond : Condition} :
    c.apply f key = .ok (some cond) ↔ ∃ symbol, c.operatorText f = .ok symbol ∧
      c.keeps f.value = true ∧ cond = ⟨c.written f key symbol, c.boundValues f key⟩ := by
  rw [apply_eq own]
  cases c.operatorText f with
  | error e => simp [Except.map]
  | ok symbol =>
    cases kept : c.keeps f.value with
    | false => simp [Except.map]
    | true => simp [Except.map, eq_comm]

/-! ### The operator -/

/-- The only error is an operator that the family cannot express. -/
theorem operatorText_eq_error {e : QueryError} (h : c.operatorText f = .error e) :
    e = f.unsupported := by
  cases c with
  | string sql =>
    simp only [operatorText] at h
    split at h
    · cases h
    · cases h
    · exact Filter.comparison_eq_error h
  | array sql element =>
    simp only [operatorText] at h
    split at h
    · cases h
    · cases h
    · cases h
  | status sql => exact Filter.equality_eq_error h
  | keyValue sql => exact Filter.equality_eq_error h
  | _ => exact Filter.comparison_eq_error h

/-- All that an operator can stand for. -/
def operatorTexts : List String := Filter.symbols ++ ["ILIKE", "NOT ILIKE", "", "NOT "]

/-- Every operator stands for one of these texts, for every family. -/
theorem mem_operatorTexts {symbol : String} (h : c.operatorText f = .ok symbol) :
    symbol ∈ operatorTexts := by
  have front {symbol : String} (h : symbol ∈ Filter.symbols) : symbol ∈ operatorTexts :=
    List.mem_append_left _ h
  cases c with
  | string sql =>
    simp only [operatorText] at h
    split at h
    · rw [← Except.ok.inj h]
      decide
    · rw [← Except.ok.inj h]
      decide
    · exact front (Filter.mem_symbols_of_comparison h)
  | array sql element =>
    simp only [operatorText] at h
    split at h
    · rw [← Except.ok.inj h]
      decide
    · rw [← Except.ok.inj h]
      decide
    · rw [← Except.ok.inj h]
      decide
  | status sql => exact front (Filter.mem_symbols_of_equality h)
  | keyValue sql => exact front (Filter.mem_symbols_of_equality h)
  | _ => exact front (Filter.mem_symbols_of_comparison h)

/-- The operator's part looks at nothing but the operator and the column. -/
theorem operatorText_congr (column : f.column = g.column) (operator : f.operator = g.operator) :
    c.operatorText f = c.operatorText g := by
  have comparison : f.comparison = g.comparison := by
    rw [Filter.comparison, Filter.comparison, operator, Filter.unsupported, Filter.unsupported,
      column, operator]
  have equality : f.equality = g.equality := by
    rw [Filter.equality, Filter.equality, operator, Filter.unsupported, Filter.unsupported, column,
      operator]
  cases c with
  | string sql => simp only [operatorText, operator, comparison]
  | array sql element => simp only [operatorText, operator]
  | status sql => exact equality
  | keyValue sql => exact equality
  | _ => exact comparison

/-! ### The text -/

/-- Of the value a condition shows no more than the outcome that it asks a status for. -/
theorem written_congr (operator : f.operator = g.operator)
    (outcome : ∀ sql, c = .status sql → f.value.statusAlias? = g.value.statusAlias?)
    (key symbol : String) : c.written f key symbol = c.written g key symbol := by
  cases c with
  | status sql => simp only [written, operator, outcome sql rfl]
  | _ => rfl

/-! ### Names -/

/-- The names that a filter binds if it is kept. -/
def boundNames : ColumnFilter → Filter → String → List String
  | status _, f, key =>
    match f.value.statusAlias? with
    | some _ => []
    | none => [key]
  | keyValue _, _, key => [boundName key "KEY", boundName key "VAL"]
  | custom _ values, f, key => (values f key).map Prod.fst
  | _, _, key => [key]

/-- A filter that is kept has a value for each of its names. -/
theorem boundValues_names (kept : c.keeps f.value = true) (key : String) :
    (c.boundValues f key).map Prod.fst = c.boundNames f key := by
  have single {v? : Option ParamValue} (h : v?.isSome = true) :
      (v?.toList.map fun v => (key, v)).map Prod.fst = [key] := by
    obtain ⟨v, rfl⟩ := Option.isSome_iff_exists.mp h
    rfl
  cases c with
  | string sql =>
    simp only [boundValues]
    split
    · rfl
    · rfl
    · rfl
  | number sql type => exact single kept
  | array sql element => exact single kept
  | status sql =>
    simp only [boundValues, boundNames]
    cases f.value.statusAlias? with
    | some outcome => rfl
    | none => rfl
  | keyValue sql =>
    obtain ⟨kv, found⟩ := Option.isSome_iff_exists.mp kept
    simp only [boundValues, found]
    rfl
  | aggregate sql =>
    obtain ⟨x, found⟩ := Option.isSome_iff_exists.mp kept
    simp only [boundValues, found]
    rfl
  | custom condition values => rfl

/-- The names lie under the key of the filter, each once. -/
theorem boundNames_under (own : c.isCustom = false) (f : Filter) (key : String) :
    (∀ n ∈ c.boundNames f key, NamedUnder key n) ∧ (c.boundNames f key).Nodup := by
  have single : (∀ n ∈ [key], NamedUnder key n) ∧ [key].Nodup :=
    ⟨fun n hn => .inl (List.mem_singleton.mp hn), by simp⟩
  cases c with
  | status sql =>
    simp only [boundNames]
    split
    · exact ⟨fun n hn => absurd hn List.not_mem_nil, List.nodup_nil⟩
    · exact single
  | keyValue sql =>
    refine ⟨?_, ?_⟩
    · intro n hn
      rcases List.mem_cons.mp hn with rfl | hn
      · exact .inr (.inl rfl)
      · exact .inr (.inr (List.mem_singleton.mp hn))
    · refine List.nodup_cons.mpr ⟨?_, by simp⟩
      intro hn
      -- the two names of a pair end differently
      have := congrArg lastPart (List.mem_singleton.mp hn)
      rw [lastPart_first, lastPart_second] at this
      exact absurd this (by decide)
  | custom condition values => cases own
  | _ => exact single

/-- Of the value, only an outcome decides about the names. -/
theorem boundNames_congr (own : c.isCustom = false)
    (outcome : ∀ sql, c = .status sql → f.value.statusAlias? = g.value.statusAlias?) (key : String) :
    c.boundNames f key = c.boundNames g key := by
  cases c with
  | status sql => simp only [boundNames, outcome sql rfl]
  | custom condition values => cases own
  | _ => rfl

end ColumnFilter

end TraceQuery
