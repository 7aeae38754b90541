/-
  A filter and its negation.

  Three pairs of operators are opposites: `eq` and `neq`, `contains` and `not_contains`, `has` and `not_has`.
  What the conditions of a pair say is compared on the rows of a table.

  1. **Predicates** (`Predicate`): a condition tests a column, or the value under a key of a JSON text,
     against an operand, and is negated or not.  A predicate has its text (`Predicate.text`), and it holds of
     a row or does not (`Predicate.holds`): for a null no predicate holds, and for a value exactly one of a
     predicate and its opposite does (`Predicate.holds_opposite`).
  2. **Operators** (`operatorText_opposite`): every family takes both operators of a pair, as the two words
     of one test, or refuses both.  Arrays are the exception: to them `contains` is as foreign as
     `not_contains`, and what is foreign is negated.
  3. **Filters** (`ColumnFilter.predicate`, `written_predicate`): the condition of a filter is the text of a
     predicate, also where the value names an outcome and the words come out the other way.  The value alone
     decides whether a filter is kept and, with the pair, what it binds (`boundValues_opposite`); so the two
     filters of a pair stand or fall together and are complementary (`opposite_complementary`).

  Mathlib-free.
-/
import TraceQuery.Proofs.Filter.Agreement

namespace TraceQuery

open TraceQuery.Sql

/-! ## Predicates -/

/-- What a condition can ask of a value. -/
inductive Test where
  | equals
  | resembles
  | member
deriving DecidableEq, Repr

/-- The word for a test, or for its negation. -/
def Test.word : Test → Bool → String
  | equals, false => "="
  | equals, true => "!="
  | resembles, false => "ILIKE"
  | resembles, true => "NOT ILIKE"
  | member, false => ""
  | member, true => "NOT "

theorem Test.braceless_word (test : Test) (negated : Bool) : openBrace ∉ (test.word negated).toList := by
  cases test <;> cases negated <;> decide

/-- No word stands for two things. -/
theorem Test.word_injective {test test' : Test} {negated negated' : Bool}
    (h : test.word negated = test'.word negated') : test = test' ∧ negated = negated' := by
  cases test <;> cases test' <;> cases negated <;> cases negated' <;> first
    | exact ⟨rfl, rfl⟩
    | exact absurd h (by decide)

/-- A word and its negation differ in length already. -/
theorem Test.length_word_ne (test : Test) (negated : Bool) :
    (test.word (!negated)).length ≠ (test.word negated).length := by
  cases test <;> cases negated <;> decide

/-- A column, or the value under a key of a JSON text; the key is a parameter. -/
inductive Subject where
  | column (sql : String)
  | field (sql key : String)
deriving DecidableEq, Repr

/-- What a value is tested against: a parameter, or a word that is written out. -/
inductive Operand where
  | parameter (name : String) (type : ColumnType)
  | word (text : String)
deriving DecidableEq, Repr

/-- What a condition says: whether a value passes a test against an operand, or whether it fails it. -/
structure Predicate where
  subject : Subject
  test : Test
  negated : Bool
  operand : Operand
deriving DecidableEq, Repr

/-- A row of a table: the values of columns, where there are any, and the functions of the database. -/
structure Row (α : Type) where
  value? : String → Option α
  field : α → ParamValue → α
  passes : Test → α → ParamValue → Bool

/-- The column that is looked at. -/
def Subject.sql : Subject → String
  | column sql => sql
  | field sql _ => sql

/-- The subject as it is written in a condition. -/
def Subject.text : Subject → String
  | column sql => sql
  | field sql key => "JSONExtractString(" ++ sql ++ ", " ++ placeholder key .string ++ ")"

/-- The value in a row; of a null nothing can be extracted. -/
def Subject.value? {α : Type} (row : Row α) (bindings : List Binding) : Subject → Option α
  | column sql => row.value? sql
  | field sql key => do
    let v ← row.value? sql
    let k ← bindings.lookup key
    return row.field v k

/-- The operand as it is written in a condition. -/
def Operand.text : Operand → String
  | parameter name type => placeholder name type
  | word text => "'" ++ text ++ "'"

/-- The value of the operand; a parameter has the one that is bound for it. -/
def Operand.value? (bindings : List Binding) : Operand → Option ParamValue
  | parameter name _ => bindings.lookup name
  | word text => some (.string text)

namespace Predicate

variable {p : Predicate}

/-- The condition that says it.  Membership is a function of the server, and its word stands in front. -/
def text (p : Predicate) : String :=
  match p.test with
  | .member => p.test.word p.negated ++ ("has(" ++ p.subject.text ++ ", " ++ p.operand.text ++ ")")
  | _ => p.subject.text ++ " " ++ p.test.word p.negated ++ " " ++ p.operand.text

/-- Tells whether the predicate holds of a row, under the values of its parameters. -/
def holds {α : Type} (p : Predicate) (row : Row α) (bindings : List Binding) : Bool :=
  match p.subject.value? row bindings, p.operand.value? bindings with
  | some v, some w => row.passes p.test v w != p.negated
  | _, _ => false

/-- The predicate with its negation turned. -/
def opposite (p : Predicate) : Predicate := { p with negated := !p.negated }

/-- The two are not written alike. -/
theorem text_opposite_ne (p : Predicate) : p.opposite.text ≠ p.text := by
  intro same
  have lengths := congrArg String.length same
  obtain ⟨subject, test, negated, operand⟩ := p
  -- all else is written alike, so the lengths of the words would be equal
  have words : (test.word (!negated)).length = (test.word negated).length := by
    cases test <;> simpa [text, opposite, String.length_append] using lengths
  exact test.length_word_ne negated words

/-- All that a predicate refers to is there. -/
structure Defined {α : Type} (p : Predicate) (row : Row α) (bindings : List Binding) : Prop where
  subject : ∃ v, p.subject.value? row bindings = some v
  operand : ∃ w, p.operand.value? bindings = some w

/-- Exactly one of a predicate and its opposite holds. -/
theorem holds_opposite {α : Type} {row : Row α} {bindings : List Binding} (h : p.Defined row bindings) :
    p.opposite.holds row bindings = !p.holds row bindings := by
  obtain ⟨v, subject⟩ := h.subject
  obtain ⟨w, operand⟩ := h.operand
  have direct : p.holds row bindings = (row.passes p.test v w != p.negated) := by
    simp only [holds, subject, operand]
  have turned : p.opposite.holds row bindings = (row.passes p.test v w != !p.negated) := by
    simp only [holds, opposite, subject, operand]
  rw [direct, turned]
  cases row.passes p.test v w <;> cases p.negated <;> rfl

end Predicate

/-! ## Operators -/

/-- The pairs of operators that are opposites. -/
inductive Operator.Opposite : Operator → Operator → Prop where
  | equality : Opposite .eq .neq
  | containment : Opposite .contains .notContains
  | membership : Opposite .has .notHas

namespace ColumnFilter

variable {c : ColumnFilter} {op op' : Operator} {column key : String} {value : FilterValue}

/-- Tells whether the column holds arrays. -/
def isArray : ColumnFilter → Bool
  | array _ _ => true
  | _ => false

/-- A family refuses both operators of a pair or takes them as the two words of one test; this test is
    membership for arrays and for nothing else. -/
theorem operatorText_opposite (own : c.isCustom = false) (opposite : op.Opposite op')
    (known : c.isArray = true → op ≠ .contains) (column : String) (value : FilterValue) :
    (c.operatorText ⟨column, op, value⟩ = .error (.unsupportedOperator column op) ∧
      c.operatorText ⟨column, op', value⟩ = .error (.unsupportedOperator column op')) ∨
    ∃ test : Test, (test = .member ↔ c.isArray = true) ∧
      c.operatorText ⟨column, op, value⟩ = .ok (test.word false) ∧
      c.operatorText ⟨column, op', value⟩ = .ok (test.word true) := by
  cases opposite with
  | equality =>
    right
    cases c with
    | array sql element => exact ⟨.member, by simp [isArray], rfl, rfl⟩
    | custom condition values => cases own
    | _ => exact ⟨.equals, by simp [isArray], rfl, rfl⟩
  | containment =>
    cases c with
    | string sql => exact .inr ⟨.resembles, by simp [isArray], rfl, rfl⟩
    | array sql element => exact absurd rfl (known rfl)
    | custom condition values => cases own
    | _ => exact .inl ⟨rfl, rfl⟩
  -- only arrays know membership; every other family refuses both
  | membership =>
    cases c with
    | array sql element => exact .inr ⟨.member, by simp [isArray], rfl, rfl⟩
    | custom condition values => cases own
    | _ => exact .inl ⟨rfl, rfl⟩

/-! ## Filters -/

/-- The column as the condition shows it. -/
def shown : ColumnFilter → String → String
  | string sql, _ => sql
  | number sql _, _ => sql
  | array sql _, _ => sql
  | status sql, _ => sql
  | keyValue sql, key => Template.bindTo ⟨sql⟩ key
  | aggregate sql, _ => sql
  | custom _ _, _ => ""

/-- What the condition of a filter says, for a test and its word or the word for its negation.  To ask for
    success is to rule out an error. -/
def predicate (c : ColumnFilter) (value : FilterValue) (key : String) (test : Test) (negated : Bool) :
    Predicate :=
  match c with
  | string _ => ⟨.column (c.shown key), test, negated, .parameter key .string⟩
  | number _ type => ⟨.column (c.shown key), test, negated, .parameter key type.columnType⟩
  | array _ element => ⟨.column (c.shown key), test, negated, .parameter key element⟩
  | status _ =>
    match value.statusAlias? with
    | some .error => ⟨.column (c.shown key), .equals, negated, .word "error"⟩
    | some .success => ⟨.column (c.shown key), .equals, !negated, .word "error"⟩
    | none => ⟨.column (c.shown key), test, negated, .parameter key .string⟩
  | keyValue _ =>
    ⟨.field (c.shown key) (boundName key "KEY"), test, negated, .parameter (boundName key "VAL") .string⟩
  | aggregate _ => ⟨.column (c.shown key), test, negated, .parameter key .float64⟩
  | custom _ _ => ⟨.column (c.shown key), test, negated, .word ""⟩

/-- A filter says with the word for the negation the opposite of what it says with the other. -/
theorem predicate_opposite (c : ColumnFilter) (value : FilterValue) (key : String) (test : Test) :
    c.predicate value key test true = (c.predicate value key test false).opposite := by
  cases c with
  | status sql =>
    simp only [predicate]
    cases value.statusAlias? with
    | none => rfl
    | some outcome => cases outcome <;> rfl
  | _ => rfl

/-- A filter says something about its own column. -/
theorem sql_predicate (c : ColumnFilter) (value : FilterValue) (key : String) (test : Test) (negated : Bool) :
    (c.predicate value key test negated).subject.sql = c.shown key := by
  cases c with
  | status sql =>
    simp only [predicate]
    split <;> rfl
  | _ => rfl

/-- A test that is no membership is written between its sides. -/
theorem text_between {test : Test} (other : test ≠ .member) (subject : Subject) (negated : Bool)
    (operand : Operand) : Predicate.text ⟨subject, test, negated, operand⟩
      = subject.text ++ " " ++ test.word negated ++ " " ++ operand.text := by
  cases test with
  | member => exact absurd rfl other
  | _ => rfl

/-- The condition of a filter is the text of what it says. -/
theorem written_predicate (own : c.isCustom = false) {f : Filter} {test : Test} {negated : Bool}
    (suits : test = .member ↔ c.isArray = true) (taken : c.operatorText f = .ok (test.word negated))
    (key : String) : c.written f key (test.word negated) = (c.predicate f.value key test negated).text := by
  have other (bare : c.isArray = false) : test ≠ .member := by
    intro member
    rw [suits.mp member] at bare
    cases bare
  cases c with
  | array sql element =>
    rw [suits.mpr rfl]
    rfl
  -- the template in its four parts is a field, a word and a parameter
  | keyValue sql =>
    have between := text_between (other rfl) (.field (Template.bindTo ⟨sql⟩ key) (boundName key "KEY")) negated
      (.parameter (boundName key "VAL") .string)
    refine (bindTo_keyValueParts sql (test.braceless_word negated) key).trans (Eq.trans ?_ between.symm)
    have mark : ") " = ")" ++ " " := rfl
    show _ = "JSONExtractString(" ++ _ ++ ", " ++ _ ++ ")" ++ " " ++ _ ++ " " ++ _
    rw [mark]
    simp only [String.append_assoc]
    rfl
  | status sql =>
    have spaced (word rest : String) :
        sql ++ (" " ++ (word ++ " ")) ++ rest = sql ++ " " ++ word ++ " " ++ rest := by
      simp only [String.append_assoc]
    have asks : sql ++ " = " ++ "'error'" = Predicate.text ⟨.column sql, .equals, false, .word "error"⟩ :=
      spaced "=" "'error'"
    have rulesOut :
        sql ++ " != " ++ "'error'" = Predicate.text ⟨.column sql, .equals, true, .word "error"⟩ :=
      spaced "!=" "'error'"
    obtain ⟨column, op, value⟩ := f
    simp only [written, predicate]
    cases value.statusAlias? with
    | none =>
      rw [text_between (other rfl)]
      rfl
    | some outcome =>
      -- the words are those of equality, but for success they change places
      cases op with
      | eq =>
        obtain ⟨rfl, rfl⟩ : test = .equals ∧ negated = false :=
          Test.word_injective (Except.ok.inj taken).symm
        cases outcome with
        | success => exact rulesOut
        | error => exact asks
      | neq =>
        obtain ⟨rfl, rfl⟩ : test = .equals ∧ negated = true :=
          Test.word_injective (Except.ok.inj taken).symm
        cases outcome with
        | success => exact asks
        | error => exact rulesOut
      | _ => cases taken
  | custom condition values => cases own
  | _ =>
    simp only [predicate]
    rw [text_between (other rfl)]
    rfl

/-- The values that are bound are the same for both operators of a pair. -/
theorem boundValues_opposite (own : c.isCustom = false) (opposite : op.Opposite op') (column : String)
    (value : FilterValue) (key : String) :
    c.boundValues ⟨column, op', value⟩ key = c.boundValues ⟨column, op, value⟩ key := by
  cases opposite <;> cases c <;> first
    | rfl
    | cases own

/-- A filter that is kept says something about every row in which its column is not null. -/
theorem defined_predicate (own : c.isCustom = false) {f : Filter} (kept : c.keeps f.value = true) (test : Test)
    (negated : Bool) {α : Type} {row : Row α} {key : String}
    (present : (row.value? (c.shown key)).isSome = true) :
    (c.predicate f.value key test negated).Defined row (c.boundValues f key) := by
  obtain ⟨x, here⟩ := Option.isSome_iff_exists.mp present
  cases c with
  | string sql =>
    refine ⟨⟨x, here⟩, ?_⟩
    simp only [boundValues]
    split <;> exact ⟨_, List.lookup_cons_self⟩
  | number sql type =>
    obtain ⟨v, read⟩ := Option.isSome_iff_exists.mp kept
    refine ⟨⟨x, here⟩, v, ?_⟩
    simp only [boundValues, read]
    exact List.lookup_cons_self
  | array sql element =>
    obtain ⟨v, read⟩ := Option.isSome_iff_exists.mp kept
    refine ⟨⟨x, here⟩, v, ?_⟩
    simp only [boundValues, read]
    exact List.lookup_cons_self
  | status sql =>
    simp only [predicate, boundValues]
    cases f.value.statusAlias? with
    | none => exact ⟨⟨x, here⟩, _, List.lookup_cons_self⟩
    | some outcome =>
      cases outcome with
      | success => exact ⟨⟨x, here⟩, _, rfl⟩
      | error => exact ⟨⟨x, here⟩, _, rfl⟩
  | keyValue sql =>
    obtain ⟨⟨k, v⟩, read⟩ := Option.isSome_iff_exists.mp kept
    -- the two names of a pair are told apart, so that the second lookup passes the first binding
    have apart : boundName key "KEY" ≠ boundName key "VAL" := by
      intro same
      have := congrArg lastPart same
      rw [lastPart_first, lastPart_second] at this
      exact absurd this (by decide)
    simp only [predicate, boundValues, read]
    constructor
    · refine ⟨row.field x (.string k), ?_⟩
      simp only [Subject.value?, here, List.lookup_cons_self]
      rfl
    · refine ⟨.string v, ?_⟩
      simp only [Operand.value?]
      rw [List.lookup_cons, beq_false_of_ne apart.symm]
      exact List.lookup_cons_self
  | aggregate sql =>
    obtain ⟨v, read⟩ := Option.isSome_iff_exists.mp kept
    refine ⟨⟨x, here⟩, .float (.finite v), ?_⟩
    simp only [boundValues, read]
    exact List.lookup_cons_self
  | custom condition values => cases own

end ColumnFilter

/-- Two outcomes of which one negates the other, for the rows in which a column is not null: both are
    errors, both are dropped, or both bind the same values and exactly one of them holds of a row. -/
inductive FilterOutcome.Complementary (column : String) : FilterOutcome → FilterOutcome → Prop where
  | refused (e e' : QueryError) : Complementary column (.error e) (.error e')
  | dropped : Complementary column (.ok none) (.ok none)
  | turned (p : Predicate) (bindings : List Binding) (onColumn : p.subject.sql = column)
      (exclusive : ∀ {α : Type} (row : Row α), (row.value? column).isSome = true →
        p.opposite.holds row bindings = !p.holds row bindings) :
      Complementary column (.ok (some ⟨p.text, bindings⟩)) (.ok (some ⟨p.opposite.text, bindings⟩))

/-- No condition negates itself. -/
theorem FilterOutcome.not_complementary_self (column : String) (cond : Condition) :
    ¬ Complementary column (.ok (some cond)) (.ok (some cond)) := by
  have apart {o o' : FilterOutcome} (h : Complementary column o o') (first : o = .ok (some cond))
      (second : o' = .ok (some cond)) : False := by
    cases h with
    | refused e e' => cases first
    | dropped => cases first
    | turned p bindings onColumn exclusive =>
      have same := Option.some.inj (Except.ok.inj (second.trans first.symm))
      exact p.text_opposite_ne (congrArg Condition.text same)
  exact fun h => apart h rfl rfl

namespace ColumnFilter

variable {c : ColumnFilter} {op op' : Operator}

/-- A filter on an array column with an operator that is foreign to it asks for the rows without the value. -/
theorem apply_foreign {sql column key : String} {element : ColumnType} {value : FilterValue}
    (foreign : op = .contains ∨ op = .notContains) :
    (array sql element).apply ⟨column, op, value⟩ key
      = .ok (bif (array sql element).keeps value then
          some ⟨((array sql element).predicate value key .member true).text,
            (array sql element).boundValues ⟨column, .contains, value⟩ key⟩
        else none) := by
  have word : (array sql element).operatorText ⟨column, op, value⟩ = .ok (Test.word .member true) := by
    rcases foreign with rfl | rfl <;> rfl
  have said := written_predicate (c := array sql element) rfl (by simp [isArray]) word key
  rw [apply_eq rfl, word, Except.map, said]
  rfl

/-- A filter and its negation are complementary, but for the search in an array column: there both, if they
    are kept, say that the value is no member. -/
theorem opposite_complementary (own : c.isCustom = false) (opposite : op.Opposite op') (column key : String)
    (value : FilterValue) :
    ((c.isArray = true → op ≠ .contains) →
      FilterOutcome.Complementary (c.shown key) (c.apply ⟨column, op, value⟩ key)
        (c.apply ⟨column, op', value⟩ key)) ∧
    (c.isArray = true → op = .contains →
      c.apply ⟨column, op', value⟩ key = c.apply ⟨column, op, value⟩ key ∧
      (c.apply ⟨column, op, value⟩ key = .ok none ∨
        ∃ (p : Predicate) (bindings : List Binding),
          p.subject.sql = c.shown key ∧ p.test = .member ∧ p.negated = true ∧
          c.apply ⟨column, op, value⟩ key = .ok (some ⟨p.text, bindings⟩))) := by
  constructor
  · intro known
    rw [apply_eq own, apply_eq own]
    -- refused both, or taken both as the words of one test
    rcases operatorText_opposite own opposite known column value with
      ⟨first, second⟩ | ⟨test, suits, first, second⟩
    · rw [first, second]
      exact .refused _ _
    · rw [first, second]
      cases kept : c.keeps value with
      | false => exact .dropped
      | true =>
        have direct := written_predicate own suits first key
        have turned := written_predicate own suits second key
        rw [predicate_opposite] at turned
        show FilterOutcome.Complementary _ (.ok (some ⟨c.written _ _ _, _⟩))
          (.ok (some ⟨c.written _ _ _, _⟩))
        rw [direct, turned, boundValues_opposite own opposite]
        exact .turned _ _ (sql_predicate c value key test false) fun row present =>
          Predicate.holds_opposite (defined_predicate own kept test false present)
  · -- for an array the search is foreign, and what is foreign is negated like its negation
    intro array search
    subst search
    cases opposite
    cases c with
    | array sql element =>
      rw [apply_foreign (.inl rfl), apply_foreign (.inr rfl)]
      refine ⟨rfl, ?_⟩
      cases (ColumnFilter.array sql element).keeps value with
      | false => exact .inl rfl
      | true => exact .inr ⟨_, _, rfl, rfl, rfl, rfl⟩
    | _ => cases array

/-- To rule out success is to ask for errors. -/
theorem opposite_complementary_status :
    FilterOutcome.Complementary "status" (.ok (some ⟨"status != 'error'", []⟩))
      (.ok (some ⟨"status = 'error'", []⟩)) :=
  (opposite_complementary (c := .status "status") rfl .equality "status" "k" (.text "success")).1
    fun array => nomatch array

/-- In an array column neither the search for a value nor its negation finds the rows that hold it. -/
theorem contains_not_complementary :
    (array "tags" .string).apply ⟨"tags", .contains, .text "x"⟩ "k"
      = .ok (some ⟨"NOT has(tags, \x7bk:String\x7d)", [("k", .string "x")]⟩) ∧
    ¬ FilterOutcome.Complementary "tags" ((array "tags" .string).apply ⟨"tags", .contains, .text "x"⟩ "k")
      ((array "tags" .string).apply ⟨"tags", .notContains, .text "x"⟩ "k") := by
  have same (op : Operator) (h : op = .contains ∨ op = .notContains) :
      (array "tags" .string).apply ⟨"tags", op, .text "x"⟩ "k"
        = .ok (some ⟨"NOT has(tags, \x7bk:String\x7d)", [("k", .string "x")]⟩) := by
    rcases h with rfl | rfl <;> rfl
  refine ⟨same .contains (.inl rfl), ?_⟩
  rw [same .contains (.inl rfl), same .notContains (.inr rfl)]
  exact FilterOutcome.not_complementary_self _ _

end ColumnFilter

end TraceQuery
