/-
  What a filter on a column says in SQL.

  1. **A column's filter** (`ColumnFilter`) belongs to a family: text, numbers, arrays, a status, a
     JSON text with keys, an aggregate; or it is custom, with its two halves given.
  2. **Two halves**: `conditionText` is the condition, which names parameters but never holds a
     value, and `boundValues` are the values of those parameters.  The first half decides: no text
     means the filter is dropped, because its value is of no use for the column, and an operator that
     the family cannot express is an error.
  3. **Columns**: `ColumnFilters` maps column ids to their filters.  A filter on a column that is not
     there is dropped.

  The halves look at the filter each by itself, so that they agree is something to prove and not
  something that holds by construction; only `apply` puts them together.  The operator is looked at
  before the value in every family but the arrays: a filter that is refused is refused whatever its
  value.  Arrays express every operator, so there is nothing to refuse.

  Mathlib-free.
-/
import TraceQuery.Filter.Basic
import TraceQuery.Query.Error
import TraceQuery.Query.Parameters
import TraceQuery.Sql.Like
import TraceQuery.Sql.Template
import TraceQuery.Text.Quoted

namespace TraceQuery

open TraceQuery.Sql

/-- A condition in SQL with the values that it refers to. -/
structure Condition where
  text : String
  bindings : List Binding
deriving DecidableEq

/-- The outcome of a filter: an error, dropped, or a condition. -/
abbrev FilterOutcome := Except QueryError (Option Condition)

/-- How a column is filtered: its expression in SQL and its family. -/
inductive ColumnFilter where
  /-- Text of a column; the operators that contain search without regard to case. -/
  | string (sql : String)
  /-- A number column. -/
  | number (sql : String) (type : NumericType)
  /-- An array column: every operator asks whether the value is a member. -/
  | array (sql : String) (element : ColumnType)
  /-- A status column, which holds `error` for failures and nothing else of interest. -/
  | status (sql : String)
  /-- A JSON text whose value under a key is compared; the filter's value is `key=value`. -/
  | keyValue (sql : String)
  /-- An aggregate over a group. -/
  | aggregate (sql : String)
  /-- A condition and its values, given as functions of the filter and its key. -/
  | custom (condition : Filter → String → Except QueryError (Option String))
      (values : Filter → String → List Binding)

/-! ## Shared parts -/

/-- The error of an operator that the column cannot express. -/
def Filter.unsupported (f : Filter) : QueryError := .unsupportedOperator f.column f.operator

/-- The comparison of the filter, if it compares. -/
def Filter.comparison (f : Filter) : Except QueryError String :=
  match f.operator.symbol? with
  | some symbol => .ok symbol
  | none => .error f.unsupported

/-- The comparison of the filter, if it is equality or its negation. -/
def Filter.equality (f : Filter) : Except QueryError String :=
  match f.operator with
  | .eq => .ok "="
  | .neq => .ok "!="
  | _ => .error f.unsupported

/-! ## Status values -/

/-- The two outcomes that have a name of their own. -/
inductive StatusAlias where
  | success
  | error
deriving DecidableEq, Repr

/-- The outcome that a value names; a number names none. -/
def FilterValue.statusAlias? : FilterValue → Option StatusAlias
  | .text s => if s = "success" then some .success else if s = "error" then some .error else none
  | .number _ => none

/-- Tells whether the filter asks for failures: an error is asked for, or success is ruled out. -/
def asksForError (op : Operator) (outcome : StatusAlias) : Bool :=
  match op, outcome with
  | .eq, .success => false
  | .neq, .error => false
  | _, _ => true

/-! ## Keys of a JSON text -/

/-- The text before and after the first equals sign. -/
def splitAtEquals : List Char → Option (List Char × List Char)
  | [] => none
  | c :: rest =>
    if c = '=' then some ([], rest) else (splitAtEquals rest).map fun (k, v) => (c :: k, v)

/-- The key and the value that a filter's value names, trimmed; neither may be empty. -/
def FilterValue.keyAndValue? (v : FilterValue) : Option (String × String) :=
  match splitAtEquals v.toText.toList with
  | none => none
  | some (k, v) =>
    let k := Text.trimChars k
    let v := Text.trimChars v
    if k.isEmpty || v.isEmpty then none else some (String.ofList k, String.ofList v)

/-- The condition on a key of a JSON text, before its placeholders are bound. -/
def keyValueTemplate (sql symbol : String) : Template :=
  ⟨"JSONExtractString(" ++ sql ++ ", \x7bKEY:String\x7d) " ++ symbol ++ " \x7bVAL:String\x7d"⟩

/-! ## The two halves -/

/-- The value that an array filter looks for. -/
def memberValue? (element : ColumnType) (v : FilterValue) : Option ParamValue :=
  match element.numeric? with
  | some type => type.coerce v
  | none => some (.string v.toText)

namespace ColumnFilter

/-- The condition of a filter, `none` if the filter is dropped. -/
def conditionText : ColumnFilter → Filter → String → Except QueryError (Option String)
  | string sql, f, key =>
    match f.operator with
    | .contains => .ok (some (sql ++ " ILIKE " ++ placeholder key .string))
    | .notContains => .ok (some (sql ++ " NOT ILIKE " ++ placeholder key .string))
    | _ => do
      let symbol ← f.comparison
      return some (sql ++ " " ++ symbol ++ " " ++ placeholder key .string)
  | number sql type, f, key => do
    -- the operator is looked at first: an impossible one is an error even where the value is of no use
    let symbol ← f.comparison
    match type.coerce f.value with
    | none => return none
    | some _ => return some (sql ++ " " ++ symbol ++ " " ++ placeholder key type.columnType)
  | array sql element, f, key =>
    match memberValue? element f.value with
    | none => .ok none
    | some _ =>
      let member := "has(" ++ sql ++ ", " ++ placeholder key element ++ ")"
      match f.operator with
      | .eq | .has => .ok (some member)
      | _ => .ok (some ("NOT " ++ member))
  | status sql, f, key => do
    let symbol ← f.equality
    match f.value.statusAlias? with
    | some outcome =>
      -- an outcome with a name of its own is written out, and nothing is bound for it
      return some (sql ++ (if asksForError f.operator outcome then " = " else " != ") ++ "'error'")
    | none => return some (sql ++ " " ++ symbol ++ " " ++ placeholder key .string)
  | keyValue sql, f, key => do
    let symbol ← f.equality
    match f.value.keyAndValue? with
    | none => return none
    | some _ => return some ((keyValueTemplate sql symbol).bindTo key)
  | aggregate sql, f, key => do
    let symbol ← f.comparison
    match f.value.toFinite? with
    | none => return none
    | some _ => return some (sql ++ " " ++ symbol ++ " " ++ placeholder key .float64)
  | custom condition _, f, key => condition f key

/-- The values that the condition of a filter refers to. -/
def boundValues : ColumnFilter → Filter → String → List Binding
  | string _, f, key =>
    match f.operator with
    | .contains | .notContains => [(key, .string (containing f.value.toText))]
    | _ => [(key, .string f.value.toText)]
  | number _ type, f, key => (type.coerce f.value).toList.map fun v => (key, v)
  | array _ element, f, key => (memberValue? element f.value).toList.map fun v => (key, v)
  | status _, f, key =>
    match f.value.statusAlias? with
    | some _ => []
    | none => [(key, .string f.value.toText)]
  | keyValue _, f, key =>
    match f.value.keyAndValue? with
    | some (k, v) => [(boundName key "KEY", .string k), (boundName key "VAL", .string v)]
    | none => []
  | aggregate _, f, key => f.value.toFinite?.toList.map fun x => (key, .float (.finite x))
  | custom _ values, f, key => values f key

/-- The condition of a filter together with its values. -/
def apply (c : ColumnFilter) (f : Filter) (key : String) : FilterOutcome := do
  match ← c.conditionText f key with
  | none => return none
  | some text => return some ⟨text, c.boundValues f key⟩

end ColumnFilter

/-! ## Filters from templates -/

/-- How a template filter reads the filter's value; a value of no use becomes zero. -/
inductive ValueReading where
  | float
  | int
  | text
deriving DecidableEq, Repr

/-- The value that a reading binds. -/
def ValueReading.read (r : ValueReading) (v : FilterValue) : ParamValue :=
  match r with
  | float => .float (.finite (v.toFinite?.getD (.zero false)))
  | int => .int (v.toInteger?.getD 0)
  | text => .string v.toText

/-- A custom filter written as a template: the operators it refuses, the operators it drops, and
    for each of its names the reading bound to it. -/
structure TemplateFilter where
  template : Template
  refused : List String
  dropped : List String
  readings : List (String × ValueReading)
deriving DecidableEq

/-- The two halves of a template filter; a name of its template is bound under the name that it is renamed
    to. -/
def TemplateFilter.toColumnFilter (t : TemplateFilter) : ColumnFilter :=
  .custom
    (fun f key =>
      if t.refused.contains f.operator.name then .error f.unsupported
      else if t.dropped.contains f.operator.name then .ok none
      else .ok (some (t.template.bindTo key)))
    (fun f key => t.readings.map fun (name, r) => (boundName key name, r.read f.value))

/-! ## Columns -/

/-- The filters of the columns that can be filtered, one per column id. -/
structure ColumnFilters where
  entries : List (String × ColumnFilter)

namespace ColumnFilters

/-- No column can be filtered. -/
def empty : ColumnFilters := ⟨[]⟩

/-- Sets the filter of a column; an earlier one is replaced in place. -/
def insertEntry (column : String) (filter : ColumnFilter) :
    List (String × ColumnFilter) → List (String × ColumnFilter)
  | [] => [(column, filter)]
  | (c, g) :: rest =>
    if c = column then (column, filter) :: rest else (c, g) :: insertEntry column filter rest

/-- Sets the filter of a column. -/
def insert (cs : ColumnFilters) (column : String) (filter : ColumnFilter) : ColumnFilters :=
  ⟨insertEntry column filter cs.entries⟩

/-- The columns of a list; of two filters on one column the later one holds. -/
def ofList (entries : List (String × ColumnFilter)) : ColumnFilters :=
  entries.foldl (fun cs (column, filter) => cs.insert column filter) empty

/-- The filter of a column. -/
def find? (cs : ColumnFilters) (column : String) : Option ColumnFilter :=
  (cs.entries.find? fun e => e.1 == column).map Prod.snd

/-- Tells whether a column can be filtered. -/
def contains (cs : ColumnFilters) (column : String) : Bool := (cs.find? column).isSome

/-- How many columns can be filtered. -/
def size (cs : ColumnFilters) : Nat := cs.entries.length

/-- Tells whether no column can be filtered. -/
def isEmpty (cs : ColumnFilters) : Bool := cs.entries.isEmpty

/-- The condition of one filter; a filter on an unknown column is dropped. -/
def build (cs : ColumnFilters) (f : Filter) (key : String) : FilterOutcome :=
  match cs.find? f.column with
  | some filter => filter.apply f key
  | none => .ok none

/-- The columns as a log line shows them: ids in ascending order between double quotes. -/
def describe (cs : ColumnFilters) : String :=
  "ColumnFilterConfig \x7b columns: " ++ Text.quotedList (nameSet (cs.entries.map Prod.fst)) ++ " \x7d"

/-- A filter that is set is found. -/
theorem find?_insert_self (cs : ColumnFilters) (column : String) (filter : ColumnFilter) :
    (cs.insert column filter).find? column = some filter := by
  obtain ⟨entries⟩ := cs
  simp only [insert, find?]
  induction entries with
  | nil => simp [insertEntry]
  | cons e rest ih =>
    by_cases h : e.1 = column
    · simp [insertEntry, h]
    · simpa [insertEntry, h] using ih

end ColumnFilters

end TraceQuery
