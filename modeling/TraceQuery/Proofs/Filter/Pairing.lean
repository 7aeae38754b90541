/-
  The two halves of a filter decide alike.

  The condition of a filter and its values are made by two functions that look at the value apart from
  one another: each decides whether the value is of use, names an outcome, splits into a key and a value,
  or is a finite number.  No request can tell them apart.

  1. **Names** (`ColumnFilter.halves_agree`): the condition refers to the names that are bound, in their
     order; what is dropped binds nothing, and what binds nothing is dropped, unless it is a status with
     an outcome of its own.
  2. **Pairs** (`Condition.Paired`): so a condition refers to exactly its own parameters.  Their names are
     the key or made of it, each once, and what is quoted in the column stays quoted.

  What is asked of the column is said of its text alone: quotes and comments in it are closed, and outside
  them there is no placeholder.  What stands inside its quotes is free, though the template of a key
  renames it there.

  Mathlib-free.
-/
import TraceQuery.Proofs.Filter.Agreement

namespace TraceQuery

open TraceQuery.Sql

/-- A condition that stands for itself, with parameters under a key: it refers to them and to nothing
    else. -/
structure Condition.Paired (c : Condition) (key : String) : Prop where
  names : placeholderNames c.text = nameSet (c.bindings.map Prod.fst)
  distinct : (c.bindings.map Prod.fst).Nodup
  under : ∀ n ∈ c.bindings.map Prod.fst, n = key ∨ n = key ++ "_key" ∨ n = key ++ "_val"
  balanced : Balanced c.text

/-- The names that a condition refers to, from the left; a filter that is dropped refers to none. -/
def namesReferred : Option String → List String
  | none => []
  | some text => (references text).map Placeholder.name

/-- A balanced text without names refers to nothing. -/
theorem Sql.Silent.of_unnamed {sql : String} (balanced : Balanced sql)
    (unnamed : placeholderNames sql = []) : Sql.Silent sql := by
  refine ⟨balanced, ?_⟩
  cases refs : references sql with
  | nil => rfl
  | cons p more =>
    have named : p.name ∈ placeholderNames sql := by
      rw [mem_placeholderNames, refs]
      exact List.mem_cons_self
    rw [unnamed] at named
    cases named

/-- The names under a key, written out. -/
theorem NamedUnder.spelled {key name : String} (h : NamedUnder key name) :
    name = key ∨ name = key ++ "_key" ∨ name = key ++ "_val" := by
  have behind {suffix lower joined : String} (small : Text.lowercase suffix = lower)
      (split : joined = "_" ++ lower) : boundName key suffix = key ++ joined := by
    rw [boundName, small, split, String.append_assoc]
  rcases h with rfl | rfl | rfl
  · exact .inl rfl
  · exact .inr (.inl (behind (by rfl) (by rfl)))
  · exact .inr (.inr (behind (by rfl) (by rfl)))

namespace ColumnFilter

variable {c : ColumnFilter} {f : Filter} {key sql : String}

/-! ## Values of no use -/

/-- A filter whose value is of no use has no values. -/
theorem boundValues_of_dropped (own : c.isCustom = false) (dropped : c.keeps f.value = false)
    (key : String) : c.boundValues f key = [] := by
  have none_of {α : Type} {x : Option α} (h : x.isSome = false) : x = none :=
    Option.isNone_iff_eq_none.mp (Option.isSome_eq_false_iff.mp h)
  cases c with
  -- a text and a status are never dropped
  | string sql => cases dropped
  | number sql type => rw [boundValues, none_of dropped]; rfl
  | array sql element => rw [boundValues, none_of dropped]; rfl
  | status sql => cases dropped
  | keyValue sql => rw [boundValues, none_of dropped]
  | aggregate sql => rw [boundValues, none_of dropped]; rfl
  | custom condition values => cases own

/-- Of the filters that are kept only a status can do without a parameter. -/
theorem status_of_boundNames (own : c.isCustom = false) (h : c.boundNames f key = []) :
    ∃ sql, c = .status sql := by
  cases c with
  | status sql => exact ⟨sql, rfl⟩
  | custom condition values => cases own
  | string sql => cases h
  | number sql type => cases h
  | array sql element => cases h
  | keyValue sql => cases h
  | aggregate sql => cases h

/-! ## Agreement -/

/-- A filter is dropped with a value of no use, and else written around the text of its operator. -/
theorem conditionText_cases (own : c.isCustom = false) {text? : Option String}
    (h : c.conditionText f key = .ok text?) :
    c.keeps f.value = false ∧ text? = none ∨
    c.keeps f.value = true ∧ ∃ symbol ∈ operatorTexts, text? = some (c.written f key symbol) := by
  rw [conditionText_eq own] at h
  cases operator : c.operatorText f with
  | error e =>
    rw [operator] at h
    cases h
  | ok symbol =>
    rw [operator] at h
    have text := (Except.ok.inj h).symm
    cases kept : c.keeps f.value with
    | false =>
      rw [kept] at text
      exact .inl ⟨rfl, text⟩
    | true =>
      rw [kept] at text
      exact .inr ⟨rfl, symbol, mem_operatorTexts operator, text⟩

/-- The condition of a filter refers to the names that the filter binds, in their order. -/
theorem namesReferred_conditionText (columnSql : c.column? = some sql) (silent : Sql.Silent sql)
    (hk : isName key.toList = true) {text? : Option String} (h : c.conditionText f key = .ok text?) :
    namesReferred text? = (c.boundValues f key).map Prod.fst := by
  have own := own_of_column? columnSql
  rcases conditionText_cases own h with ⟨dropped, rfl⟩ | ⟨kept, symbol, hs, rfl⟩
  · rw [boundValues_of_dropped own dropped]
    rfl
  · show (references _).map _ = _
    rw [(reads_written columnSql silent hk hs f).references, names_placeholders own,
      boundValues_names kept]

/-- What is dropped has no values, and what has none is dropped, but for a status with an outcome. -/
theorem conditionText_eq_none_iff (own : c.isCustom = false) {text? : Option String}
    (h : c.conditionText f key = .ok text?) :
    text? = none ↔ c.boundValues f key = [] ∧ ∀ sql, c ≠ .status sql := by
  rcases conditionText_cases own h with ⟨dropped, rfl⟩ | ⟨kept, symbol, _, rfl⟩
  · refine iff_of_true rfl ⟨boundValues_of_dropped own dropped key, ?_⟩
    rintro sql rfl
    cases dropped
  · -- a condition that is kept refers to its names, so only one without a name can have no values
    refine iff_of_false (Option.some_ne_none _) ?_
    rintro ⟨empty, noStatus⟩
    have names := boundValues_names kept key
    rw [empty] at names
    obtain ⟨sql, status⟩ := status_of_boundNames own names.symm
    exact noStatus sql status

/-- Over a balanced column that refers to nothing, a filter pairs its condition with exactly its
    parameters, and both halves decide alike about the value. -/
theorem halves_agree (columnSql : c.column? = some sql) (balanced : Balanced sql)
    (unnamed : placeholderNames sql = []) (hk : isName key.toList = true) (f : Filter) :
    (∀ cond, c.apply f key = .ok (some cond) → cond.Paired key) ∧
    ∀ text?, c.conditionText f key = .ok text? →
      namesReferred text? = (c.boundValues f key).map Prod.fst ∧
      (text? = none ↔ c.boundValues f key = [] ∧ ∀ sql, c ≠ .status sql) := by
  have own := own_of_column? columnSql
  have silent := Sql.Silent.of_unnamed balanced unnamed
  refine ⟨fun cond h => ?_, fun text? h =>
    ⟨namesReferred_conditionText columnSql silent hk h, conditionText_eq_none_iff own h⟩⟩
  obtain ⟨symbol, operator, kept, rfl⟩ := (apply_eq_some own).mp h
  have reads := reads_written columnSql silent hk (mem_operatorTexts operator) f
  -- names are compared in the order of the text, and each stands there once
  have bound := boundValues_names kept key
  obtain ⟨under, distinct⟩ := boundNames_under own f key
  refine ⟨?_, ?_, ?_, reads.balanced⟩
  · rw [bound, ← names_placeholders own, ← reads.references]
    rfl
  · rwa [bound]
  · intro n hn
    rw [bound] at hn
    exact (under n hn).spelled

/-- A key of a JSON text, over a column that holds the template's own placeholder inside quotes. -/
def quotedColumn : String := "m['\x7bKEY:String\x7d']"

/-- The quoted placeholder is renamed with the template, and yet it is no reference before or after. -/
theorem halves_agree_quoted :
    Balanced quotedColumn ∧ placeholderNames quotedColumn = [] ∧
    ∃ cond, (keyValue quotedColumn).apply ⟨"m", .eq, .text "a=b"⟩ "k" = .ok (some cond) ∧
      cond.bindings = [("k_key", .string "a"), ("k_val", .string "b")] ∧ cond.Paired "k" := by
  have balanced : Balanced quotedColumn := by decide
  have unnamed : placeholderNames quotedColumn = [] := by decide +kernel
  have kept : (keyValue quotedColumn).keeps (.text "a=b") = true := by decide
  have applied : (keyValue quotedColumn).apply ⟨"m", .eq, .text "a=b"⟩ "k" = .ok (some
      ⟨(keyValue quotedColumn).written ⟨"m", .eq, .text "a=b"⟩ "k" "=",
        (keyValue quotedColumn).boundValues ⟨"m", .eq, .text "a=b"⟩ "k"⟩) :=
    (apply_eq_some rfl).mpr ⟨"=", rfl, kept, rfl⟩
  have bound : (keyValue quotedColumn).boundValues ⟨"m", .eq, .text "a=b"⟩ "k"
      = [("k_key", .string "a"), ("k_val", .string "b")] := by decide
  obtain ⟨pairs, _⟩ := halves_agree (c := .keyValue quotedColumn) rfl balanced unnamed
    (show isName "k".toList = true by decide) ⟨"m", .eq, .text "a=b"⟩
  exact ⟨balanced, unnamed, _, applied, bound, pairs _ applied⟩

end ColumnFilter

end TraceQuery
