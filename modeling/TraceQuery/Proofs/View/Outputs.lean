/-
  What the projections of evaluation runs show, as a server reads it.

  The name of a score is any text a client sends.  It gets into a projection in two ways: escaped, in
  the literal that the score is looked up by, and quoted, in the name of a column.

  1. **Outputs** (`Output`): a projection is a list of expressions, each under a name.  Where the
     expression is whole and the name sealed, the server reads the expression, `AS`, and one
     identifier (`Output.read_text`), and with any other name it does not (`Output.Named.sealed`).
  2. **What is SQL** (`outside_listed`): what a server takes for SQL in a projection is put together
     from what it takes for SQL in the expressions.
  3. **Columns** (`Evaluation.readable_standardColumns`): where the names of all scores are sealed,
     the columns of a run can be read; the expression of a score holds no more of its name than the
     literal (`Evaluation.read_scoreColumn`), so runs with as many scores have columns that are read
     alike but for what is in quotes (`EvalColumn.Alike`).
  4. **Projections** of a run, of its statistics, of a target run and of two joined runs: each of them
     is a function of the columns that keeps these properties.
-/
import Mathlib.Data.List.Forall2
import TraceQuery.Proofs.Select.Whole
import TraceQuery.Proofs.View.Closed

namespace TraceQuery

open TraceQuery.Sql

/-! ## Outputs -/

/-- A projected expression and the name of its column in the result. -/
structure Output where
  /-- what is computed, in SQL -/
  expression : String
  /-- the column of the result, any text -/
  name : String

namespace Output

/-- An output as a statement writes it: the expression, `AS`, and the name in backticks. -/
def text (o : Output) : String := aliased o.expression o.name

/-- An expression that is whole under a name that is sealed. -/
structure Readable (o : Output) : Prop where
  expression : Whole o.expression
  name : Sealed o.name

/-- The name is read as one identifier, which ends where the output does. -/
def Named (o : Output) : Prop :=
  ∃ name, read o.text = read o.expression ++ symbols " AS " ++ [.quoted backtick name]

variable {o : Output}

/-- A whole expression ends before the keyword, whatever the name does behind it. -/
theorem read_eq (h : Whole o.expression) :
    read o.text = read o.expression ++ symbols " AS " ++ read (quoteIdentifier o.name) := by
  have keyword : Unquoted " AS " := by decide
  have behind : opens (" AS " ++ quoteIdentifier o.name).toList = false := by
    rw [String.toList_append]
    rfl
  rw [text, aliased, String.append_assoc, read_append h.ends behind, keyword.read_append,
    List.append_assoc]

/-- An output that can be read is read as its expression, `AS`, and one identifier. -/
theorem read_text (h : o.Readable) : read o.text
    = read o.expression ++ symbols " AS " ++ [.quoted backtick (denoted o.name.toList)] := by
  rw [read_eq h.expression, read_quoteIdentifier h.name]

theorem Readable.named (h : o.Readable) : o.Named := ⟨_, read_text h⟩

/-- Only a sealed name is read as one identifier. -/
theorem Named.sealed (h : Whole o.expression) (named : o.Named) : Sealed o.name := by
  obtain ⟨name, same⟩ := named
  rw [read_eq h] at same
  exact sealed_of_read (List.append_cancel_left same)

/-- What stands behind a readable output is read as it is on its own. -/
theorem Readable.whole (h : o.Readable) : Whole o.text := by
  refine ⟨?_, ?_⟩
  · rw [read_text h]
    simp only [List.mem_append, not_or]
    exact ⟨⟨h.expression.ends, broken_not_mem_symbols _⟩, broken_not_mem_quoted _ _⟩
  · rw [text, aliased, String.append_assoc]
    refine opens_append h.expression.front ?_
    rw [String.toList_append]
    rfl

theorem outside_text (h : o.Readable) :
    outside (read o.text) = outside (read o.expression) ++ " AS ".toList := by
  rw [read_text h, outside_append, outside_append, outside_symbols]
  exact List.append_nil _

end Output

/-- The outputs of a projection. -/
def listed (outputs : List Output) : String := ", ".intercalate (outputs.map Output.text)

/-- A list of readable outputs is whole. -/
theorem whole_listed {outputs : List Output} (h : ∀ o ∈ outputs, o.Readable) :
    Whole (listed outputs) := by
  refine Whole.intercalate (Unquoted.whole (by decide)) ?_
  intro t ht
  obtain ⟨o, ho, rfl⟩ := List.mem_map.mp ht
  exact (h o ho).whole

/-- Outputs that can be read are read before those that follow, whatever these are. -/
theorem read_listed_append {xs : List Output} (h : ∀ o ∈ xs, o.Readable) (y : Output)
    (ys : List Output) : ∃ front, read (listed (xs ++ y :: ys)) = front ++ read (listed (y :: ys)) := by
  have comma : Unquoted ", " := by decide
  induction xs with
  | nil => exact ⟨[], rfl⟩
  | cons x xs ih =>
    obtain ⟨front, tail⟩ := ih fun o ho => h o (List.mem_cons_of_mem x ho)
    have whole := (h x List.mem_cons_self).whole
    have cut : listed (x :: (xs ++ y :: ys)) = x.text ++ (", " ++ listed (xs ++ y :: ys)) := by
      -- another output follows, so there is a comma
      obtain ⟨z, zs, same⟩ : ∃ z zs, xs ++ y :: ys = z :: zs :=
        List.exists_cons_of_ne_nil (List.append_ne_nil_of_right_ne_nil xs (List.cons_ne_nil y ys))
      rw [same, listed, List.map_cons, List.map_cons, String.intercalate_cons_cons,
        String.append_assoc]
      rfl
    refine ⟨read x.text ++ (symbols ", " ++ front), ?_⟩
    rw [List.cons_append, cut, read_append whole.ends ?_, comma.read_append, tail]
    · simp only [List.append_assoc]
    · rw [String.toList_append]
      rfl

/-- Two outputs whose expressions are read alike but for what is in quotes. -/
def Output.Alike (o o' : Output) : Prop :=
  outside (read o.expression) = outside (read o'.expression)

/-- What is read as SQL is the same for outputs that are alike. -/
theorem outside_listed {xs ys : List Output} (hx : ∀ o ∈ xs, o.Readable) (hy : ∀ o ∈ ys, o.Readable)
    (same : List.Forall₂ Output.Alike xs ys) :
    outside (read (listed xs)) = outside (read (listed ys)) := by
  have comma : Unquoted ", " := by decide
  have whole {outputs : List Output} (h : ∀ o ∈ outputs, o.Readable) :
      ∀ t ∈ outputs.map Output.text, Whole t := by
    intro t ht
    obtain ⟨o, ho, rfl⟩ := List.mem_map.mp ht
    exact (h o ho).whole
  have parts : xs.map (fun o => outside (read o.text)) = ys.map fun o => outside (read o.text) := by
    induction same with
    | nil => rfl
    | @cons x y xs ys head _ ih =>
      have first : outside (read x.text) = outside (read y.text) := by
        rw [Output.outside_text (hx x List.mem_cons_self),
          Output.outside_text (hy y List.mem_cons_self),
          show outside (read x.expression) = outside (read y.expression) from head]
      rw [List.map_cons, List.map_cons, first,
        ih (fun o ho => hx o (List.mem_cons_of_mem x ho)) fun o ho => hy o (List.mem_cons_of_mem y ho)]
  rw [listed, listed, outside_intercalate comma (whole hx), outside_intercalate comma (whole hy),
    List.map_map, List.map_map]
  exact congrArg _ parts

/-! ## Columns -/

namespace EvalColumn

/-- A column whose expressions are whole and whose id is sealed. -/
structure Readable (c : EvalColumn) : Prop where
  sql : Whole c.sql
  filterExpression : Whole c.filterExpression
  id : Sealed c.id

/-- Whether a given column can be read is computed. -/
instance : DecidablePred Readable := fun c =>
  decidable_of_iff (Whole c.sql ∧ Whole c.filterExpression ∧ Sealed c.id)
    ⟨fun h => ⟨h.1, h.2.1, h.2.2⟩, fun h => ⟨h.1, h.2, h.3⟩⟩

/-- Filters on a readable column write whole conditions, whichever family they belong to. -/
theorem writesWhole_filter? {c : EvalColumn} (h : c.Readable) {f : ColumnFilter}
    (hf : c.filter? = some f) : f.WritesWhole := by
  rcases filter?_cases hf with rfl | rfl | ⟨element, rfl⟩ | ⟨type, rfl⟩
  · exact ColumnFilter.writesWhole_string h.filterExpression
  · -- the second family is text of the expression, put in a call
    refine ColumnFilter.writesWhole_string ?_
    exact Whole.append (Whole.append (Unquoted.whole (by decide)) h.filterExpression)
      (Unquoted.whole (by decide))
  · exact ColumnFilter.writesWhole_array h.filterExpression element
  · exact ColumnFilter.writesWhole_number h.filterExpression type

/-- Two columns that are shown in the same places and are read alike but for what is in quotes. -/
structure Alike (c d : EvalColumn) : Prop where
  left : c.Readable
  right : d.Readable
  sql : outside (read c.sql) = outside (read d.sql)
  index : (c.id == Evaluation.indexId) = (d.id == Evaluation.indexId)
  comparable : c.comparable = d.comparable
  numeric : c.isNumeric = d.isNumeric

theorem Readable.alike {c : EvalColumn} (h : c.Readable) : c.Alike c := ⟨h, h, rfl, rfl, rfl, rfl⟩

end EvalColumn

namespace Evaluation

/-- A mark in front of a sealed text. -/
theorem sealed_mark {mark name : String} (hm : backslash ∉ mark.toList) :
    Sealed (mark ++ name) ↔ Sealed name := by
  rw [Sealed, Sealed, String.toList_append, isSealed_append hm]

/-- The expression of a score is read as a call with one literal in it, which is the name. -/
theorem read_scoreColumn (name : String) : read (scoreColumn name).sql
    = symbols "JSONExtractFloat(dp.scores, " ++ [.quoted singleQuote name.toList] ++ symbols ")" := by
  have front : Unquoted "JSONExtractFloat(dp.scores, " := by decide
  have close : Unquoted ")" := by decide
  have literal : .broken ∉ read (quoteLiteral name) := by
    rw [read_quoteLiteral]
    exact broken_not_mem_quoted _ _
  show read ("JSONExtractFloat(dp.scores, " ++ quoteLiteral name ++ ")") = _
  rw [String.append_assoc, front.read_append, read_append literal close.front, read_quoteLiteral,
    close.read_eq, List.append_assoc]

/-- The expression of a score is whole whatever the name is: literals escape backslashes. -/
theorem whole_scoreColumn (name : String) : Whole (scoreColumn name).sql := by
  refine ⟨?_, ?_⟩
  · rw [read_scoreColumn]
    simp only [List.mem_append, not_or]
    exact ⟨⟨broken_not_mem_symbols _, broken_not_mem_quoted _ _⟩, broken_not_mem_symbols _⟩
  · show opens ("JSONExtractFloat(dp.scores, " ++ quoteLiteral name ++ ")").toList = false
    rw [String.append_assoc, String.toList_append]
    rfl

/-- No score is taken for the index. -/
theorem scoreColumn_ne_index (name : String) : ((scoreColumn name).id == indexId) = false := by
  rw [beq_eq_false_iff_ne]
  intro same
  have := congrArg (fun s => s.toList.head?) same
  simp [scoreColumn, scoreMark, indexId] at this

theorem readable_scoreColumn {name : String} (h : Sealed name) : (scoreColumn name).Readable :=
  ⟨whole_scoreColumn name, whole_scoreColumn name, (sealed_mark (by decide)).mpr h⟩

theorem readable_fixedColumns : ∀ c ∈ standardColumns [], c.Readable := by decide +kernel

/-- Columns of scores with sealed names can be read. -/
theorem readable_standardColumns {scores : List String} (h : ∀ name ∈ scores, Sealed name) :
    ∀ c ∈ standardColumns scores, c.Readable := by
  intro c hc
  rcases List.mem_append.mp hc with hc | hc
  · exact readable_fixedColumns c (List.mem_append_left _ hc)
  · obtain ⟨name, hn, rfl⟩ := List.mem_map.mp hc
    exact readable_scoreColumn (h name hn)

/-- Scores differ in nothing but what is in quotes. -/
theorem alike_scoreColumn {name name' : String} (h : Sealed name) (h' : Sealed name') :
    (scoreColumn name).Alike (scoreColumn name') := by
  refine ⟨readable_scoreColumn h, readable_scoreColumn h', ?_, ?_, rfl, rfl⟩
  · rw [read_scoreColumn, read_scoreColumn]
    simp only [outside_append, outside_symbols]
    rfl
  · rw [scoreColumn_ne_index, scoreColumn_ne_index]

/-- Runs with as many scores have columns that are alike. -/
theorem alike_standardColumns {scores scores' : List String} (h : ∀ name ∈ scores, Sealed name)
    (h' : ∀ name ∈ scores', Sealed name) (same : scores.length = scores'.length) :
    List.Forall₂ EvalColumn.Alike (standardColumns scores) (standardColumns scores') := by
  refine List.rel_append ?_ ?_
  · refine List.forall₂_same.mpr ?_
    intro c hc
    exact (readable_fixedColumns c (List.mem_append_left _ hc)).alike
  · rw [List.forall₂_map_left_iff, List.forall₂_map_right_iff]
    refine List.forall₂_iff_get.mpr ⟨same, ?_⟩
    intro i hi hi'
    exact alike_scoreColumn (h _ (List.getElem_mem hi)) (h' _ (List.getElem_mem hi'))

/-! ## Projections -/

/-- What a run shows. -/
def runOutputs (columns : List EvalColumn) : List Output := columns.map fun c => ⟨c.sql, c.id⟩

/-- What a select of run outputs shows are the columns' projections. -/
theorem text_runOutputs (columns : List EvalColumn) :
    columns.map EvalColumn.projection = (runOutputs columns).map Output.text := by
  rw [runOutputs, List.map_map]
  rfl

/-- What the statistics of a run show. -/
def statsOutputs (columns : List EvalColumn) : List Output :=
  ((columns.filter fun c => c.id != indexId && c.isNumeric).map fun c =>
    ⟨"avg(" ++ c.sql ++ ")", averageMark ++ c.id⟩) ++ [⟨"COUNT(*)", "count"⟩]

/-- What a target run shows. -/
def targetOutputs (columns : List EvalColumn) : List Output :=
  runOutputs (columns.filter fun c => c.id == indexId || c.comparable)

/-- What two joined runs show. -/
def joinedOutputs (columns : List EvalColumn) : List Output :=
  (columns.map fun c => ⟨primaryName c.id, c.id⟩) ++
    (columns.filter fun c => c.comparable).map fun c => ⟨comparedName c.id, comparedMark ++ c.id⟩

section

variable {columns columns' : List EvalColumn}

/-- What is made of readable columns one by one can be read if each can. -/
theorem readable_map (h : ∀ c ∈ columns, c.Readable) {f : EvalColumn → Output}
    (hf : ∀ c, c.Readable → (f c).Readable) : ∀ o ∈ columns.map f, o.Readable := by
  intro o ho
  obtain ⟨c, hc, rfl⟩ := List.mem_map.mp ho
  exact hf c (h c hc)

theorem readable_filter (h : ∀ c ∈ columns, c.Readable) (p : EvalColumn → Bool) :
    ∀ c ∈ columns.filter p, c.Readable :=
  fun c hc => h c (List.mem_filter.mp hc).1

/-- A run of readable columns shows outputs that can be read. -/
theorem readable_runOutputs (h : ∀ c ∈ columns, c.Readable) : ∀ o ∈ runOutputs columns, o.Readable :=
  readable_map h fun _ hc => ⟨hc.sql, hc.id⟩

theorem readable_statsOutputs (h : ∀ c ∈ columns, c.Readable) :
    ∀ o ∈ statsOutputs columns, o.Readable := by
  intro o ho
  rcases List.mem_append.mp ho with ho | ho
  · refine readable_map (readable_filter h _) ?_ o ho
    intro c hc
    refine ⟨?_, (sealed_mark (by decide)).mpr hc.id⟩
    exact Whole.append (Whole.append (Unquoted.whole (by decide)) hc.sql) (Unquoted.whole (by decide))
  · -- the count stands behind the averages
    rw [List.mem_singleton.mp ho]
    exact ⟨Unquoted.whole (by decide), by decide⟩

theorem readable_targetOutputs (h : ∀ c ∈ columns, c.Readable) :
    ∀ o ∈ targetOutputs columns, o.Readable :=
  readable_runOutputs (readable_filter h _)

/-- A column of one of two joined runs. -/
theorem read_qualified {mark id : String} (hm : Unquoted mark) (h : Sealed id) :
    read (mark ++ quoteIdentifier id) = symbols mark ++ [.quoted backtick (denoted id.toList)] := by
  rw [hm.read_append, read_quoteIdentifier h]

/-- A column of one of two joined runs is whole: the mark of the run is in front of one identifier. -/
theorem whole_qualified {mark id : String} (hm : Unquoted mark) (ne : mark ≠ "") (h : Sealed id) :
    Whole (mark ++ quoteIdentifier id) := by
  refine hm.whole_append ne ?_
  rw [read_quoteIdentifier h]
  exact broken_not_mem_quoted _ _

/-- What two joined runs show can be read if the columns can. -/
theorem readable_joinedOutputs (h : ∀ c ∈ columns, c.Readable) :
    ∀ o ∈ joinedOutputs columns, o.Readable := by
  intro o ho
  rcases List.mem_append.mp ho with ho | ho
  · refine readable_map h ?_ o ho
    intro c hc
    exact ⟨whole_qualified (by decide) (by decide) hc.id, hc.id⟩
  · refine readable_map (readable_filter h _) ?_ o ho
    intro c hc
    exact ⟨whole_qualified (by decide) (by decide) hc.id, (sealed_mark (by decide)).mpr hc.id⟩

/-! ### Projections that are read alike -/

/-- A choice by what alike columns share chooses alike columns. -/
theorem alike_filter (h : List.Forall₂ EvalColumn.Alike columns columns') {p : EvalColumn → Bool}
    (same : ∀ c d, EvalColumn.Alike c d → p c = p d) :
    List.Forall₂ EvalColumn.Alike (columns.filter p) (columns'.filter p) := by
  refine List.rel_filter ?_ h
  intro c d alike
  show p c = true ↔ p d = true
  rw [same c d alike]

/-- Outputs made of alike columns are alike if the making respects it. -/
theorem alike_map (h : List.Forall₂ EvalColumn.Alike columns columns') {f : EvalColumn → Output}
    (same : ∀ c d, c.Alike d → (f c).Alike (f d)) :
    List.Forall₂ Output.Alike (columns.map f) (columns'.map f) := by
  rw [List.forall₂_map_left_iff, List.forall₂_map_right_iff]
  exact h.imp same

/-- Runs of alike columns show outputs that are alike. -/
theorem alike_runOutputs (h : List.Forall₂ EvalColumn.Alike columns columns') :
    List.Forall₂ Output.Alike (runOutputs columns) (runOutputs columns') :=
  alike_map h fun _ _ alike => alike.sql

theorem alike_statsOutputs (h : List.Forall₂ EvalColumn.Alike columns columns') :
    List.Forall₂ Output.Alike (statsOutputs columns) (statsOutputs columns') := by
  refine List.rel_append (alike_map (alike_filter h ?_) ?_) (.cons rfl .nil)
  · intro c d alike
    simp only [bne, alike.index, alike.numeric]
  · intro c d alike
    have close : Unquoted ")" := by decide
    have average {sql : String} (whole : Whole sql) : outside (read ("avg(" ++ sql ++ ")"))
        = "avg(".toList ++ outside (read sql) ++ ")".toList := by
      have front : Unquoted "avg(" := by decide
      rw [String.append_assoc, front.read_append, read_append whole.ends close.front, close.read_eq]
      simp only [outside_append, outside_symbols, List.append_assoc]
    show outside (read ("avg(" ++ c.sql ++ ")")) = outside (read ("avg(" ++ d.sql ++ ")"))
    rw [average alike.left.sql, average alike.right.sql, alike.sql]

theorem alike_targetOutputs (h : List.Forall₂ EvalColumn.Alike columns columns') :
    List.Forall₂ Output.Alike (targetOutputs columns) (targetOutputs columns') := by
  refine alike_runOutputs (alike_filter h ?_)
  intro c d alike
  simp only [alike.index, alike.comparable]

/-- Of a column of a joined run all but its name is read alike. -/
theorem outside_qualified {mark id : String} (hm : Unquoted mark) (h : Sealed id) :
    outside (read (mark ++ quoteIdentifier id)) = mark.toList := by
  rw [read_qualified hm h, outside_append, outside_symbols]
  exact List.append_nil _

/-- The outputs of two joined runs are names of columns, which are in quotes. -/
theorem alike_joinedOutputs (h : List.Forall₂ EvalColumn.Alike columns columns') :
    List.Forall₂ Output.Alike (joinedOutputs columns) (joinedOutputs columns') := by
  have qualified {mark id id' : String} (hm : Unquoted mark) (hi : Sealed id) (hi' : Sealed id') :
      outside (read (mark ++ quoteIdentifier id)) = outside (read (mark ++ quoteIdentifier id')) := by
    rw [outside_qualified hm hi, outside_qualified hm hi']
  refine List.rel_append (alike_map h ?_) (alike_map (alike_filter h ?_) ?_)
  · exact fun c d alike => qualified (by decide) alike.left.id alike.right.id
  · exact fun c d alike => alike.comparable
  · exact fun c d alike => qualified (by decide) alike.left.id alike.right.id

end

end Evaluation

end TraceQuery
