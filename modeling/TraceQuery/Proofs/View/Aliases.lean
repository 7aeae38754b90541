/-
  Every column that two joined runs refer to is an output of one of them.

  1. **Joined statements** (`Joined`): what stands around the two runs, with each `p.` or `c.` and a
     quoted id as a reference.  The joined text is the text of one (`Evaluation.joinedText_eq_text`).
  2. **References** (`Evaluation.resolves_of_mem`): whatever the columns are, a reference to the primary
     run is an id that the run shows, and one to the target run an id that the target run shows.  Both
     runs show the index, since columns without one get it.
  3. **Names**: of scores with different names all names of the results are different, also quoted, since
     quoting loses nothing (`quoteIdentifier_injective`).  The marks in front of a name keep apart what
     the ids alone would not (`Evaluation.nodup_joinedOutputs`, `Evaluation.nodup_statsOutputs`).
-/
import Mathlib.Data.List.Nodup
import TraceQuery.Proofs.Sql.Embedding
import TraceQuery.Proofs.View.Comparison
import TraceQuery.Proofs.View.Outputs

namespace TraceQuery

open TraceQuery.Sql

/-! ## Joined statements -/

/-- The two runs of a joined statement. -/
inductive Side where
  | primary
  | compared
deriving DecidableEq, Repr

/-- A column of one of the two runs. -/
structure Reference where
  side : Side
  id : String
deriving DecidableEq, Repr

namespace Reference

/-- A column as the joined statement writes it. -/
def text : Reference → String
  | ⟨.primary, id⟩ => Evaluation.primaryName id
  | ⟨.compared, id⟩ => Evaluation.comparedName id

/-- Tells whether the run shows an output of that name. -/
def ResolvesIn (primary compared : List Output) : Reference → Prop
  | ⟨.primary, id⟩ => id ∈ primary.map Output.name
  | ⟨.compared, id⟩ => id ∈ compared.map Output.name

end Reference

/-- What stands around two joined runs. -/
structure Joined where
  /-- The columns shown, and their names. -/
  shown : List (Reference × String)
  /-- The columns that are equal in joined rows. -/
  on : Reference × Reference
  orderBy : Reference × Direction

namespace Joined

/-- What the statement shows, each column under its name. -/
def outputs (j : Joined) : List Output := j.shown.map fun (column, name) => ⟨column.text, name⟩

/-- All columns that the statement refers to. -/
def references (j : Joined) : List Reference :=
  j.shown.map Prod.fst ++ [j.on.1, j.on.2] ++ [j.orderBy.1]

/-- The statement around the texts of the two runs. -/
def text (j : Joined) (primary compared : String) : String :=
  "SELECT " ++ ", ".intercalate (j.outputs.map Output.text) ++
    "\nFROM (\n" ++ primary ++ "\n) AS p\nANY LEFT JOIN (\n" ++ compared ++ "\n) AS c ON " ++
    j.on.1.text ++ " = " ++ j.on.2.text ++
    "\nORDER BY " ++ j.orderBy.1.text ++ " " ++ j.orderBy.2.sql ++
    "\nSETTINGS join_use_nulls = 1"

end Joined

namespace Evaluation

/-- What stands around two runs of these columns. -/
def joined (columns : List EvalColumn) (sort : EvalSort) : Joined where
  shown := (columns.map fun c => (⟨.primary, c.id⟩, c.id)) ++
    (columns.filter fun c => c.comparable).map fun c => (⟨.compared, c.id⟩, comparedMark ++ c.id)
  on := (⟨.primary, indexId⟩, ⟨.compared, indexId⟩)
  orderBy := (⟨.primary, sort.column⟩, sort.direction)

variable {columns : List EvalColumn}

/-- What two joined runs show is what the statement around them shows. -/
theorem outputs_joined (columns : List EvalColumn) (sort : EvalSort) :
    (joined columns sort).outputs = joinedOutputs columns := by
  rw [Joined.outputs, joined, List.map_append, List.map_map, List.map_map]
  rfl

/-- The joined text of the program is that of the statement. -/
theorem joinedText_eq_text (primary compared : String) (columns : List EvalColumn) (sort : EvalSort) :
    joinedText primary compared columns sort = (joined columns sort).text primary compared := by
  have shown : (joined columns sort).outputs.map Output.text = joinedColumns columns := by
    rw [outputs_joined, joinedOutputs, List.map_append, List.map_map, List.map_map]
    rfl
  have left : (joined columns sort).on.1.text = primaryName indexId := rfl
  have right : (joined columns sort).on.2.text = comparedName indexId := rfl
  have order : (joined columns sort).orderBy.1.text = primaryName sort.column := rfl
  have direction : (joined columns sort).orderBy.2 = sort.direction := rfl
  unfold joinedText Joined.text
  rw [shown, left, right, order, direction]

/-! ## References -/

theorem names_runOutputs (columns : List EvalColumn) :
    (runOutputs columns).map Output.name = columns.map EvalColumn.id := by
  rw [runOutputs, List.map_map]
  rfl

/-- The target run shows the index and the columns that can be compared. -/
theorem mem_names_targetOutputs {c : EvalColumn} (hc : c ∈ columns)
    (shown : (c.id == indexId || c.comparable) = true) :
    c.id ∈ (targetOutputs columns).map Output.name := by
  rw [targetOutputs, names_runOutputs]
  exact List.mem_map_of_mem (List.mem_filter.mpr ⟨hc, shown⟩)

/-- Both runs show the index. -/
theorem index_mem_names (h : ∃ c ∈ columns, c.id = indexId) :
    indexId ∈ (runOutputs columns).map Output.name ∧
      indexId ∈ (targetOutputs columns).map Output.name := by
  obtain ⟨c, hc, isIndex⟩ := h
  rw [← isIndex]
  refine ⟨?_, mem_names_targetOutputs hc (by simp [isIndex])⟩
  rw [names_runOutputs]
  exact List.mem_map_of_mem hc

/-- A column that two joined runs refer to is shown by the run it is said to be of. -/
theorem resolves_of_mem (index : ∃ c ∈ columns, c.id = indexId) {sort : EvalSort}
    (sorted : sort.column ∈ columns.map EvalColumn.id) :
    ∀ r ∈ (joined columns sort).references,
      r.ResolvesIn (runOutputs columns) (targetOutputs columns) := by
  intro r hr
  simp only [Joined.references, joined, List.map_append, List.map_map, List.mem_append, List.mem_cons,
    List.not_mem_nil, or_false] at hr
  -- the columns of both runs, the two sides of the join, and the order
  rcases hr with ((hr | hr) | rfl | rfl) | rfl
  · obtain ⟨c, hc, rfl⟩ := List.mem_map.mp hr
    show c.id ∈ (runOutputs columns).map Output.name
    rw [names_runOutputs]
    exact List.mem_map_of_mem hc
  · obtain ⟨c, hc, rfl⟩ := List.mem_map.mp hr
    obtain ⟨hc, comparable⟩ := List.mem_filter.mp hc
    exact mem_names_targetOutputs hc (by simp [comparable])
  · exact (index_mem_names index).1
  · exact (index_mem_names index).2
  · show sort.column ∈ (runOutputs columns).map Output.name
    rwa [names_runOutputs]

end Evaluation

/-! ## Names of outputs -/

/-- The names of outputs as they stand in a statement. -/
def quotedNames (outputs : List Output) : List String := outputs.map fun o => quoteIdentifier o.name

/-- Different names are different when they are quoted. -/
theorem nodup_quotedNames {outputs : List Output} (h : (outputs.map Output.name).Nodup) :
    (quotedNames outputs).Nodup := by
  have quoted : quotedNames outputs = (outputs.map Output.name).map quoteIdentifier := by
    rw [List.map_map]
    rfl
  rw [quoted]
  exact h.map quoteIdentifier_injective

namespace Evaluation

/-- Marked names are different if the names are. -/
theorem mark_injective (mark : String) : Function.Injective (mark ++ ·) := by
  intro s t h
  have chars := congrArg String.toList h
  simp only [String.toList_append, List.append_cancel_left_eq] at chars
  exact String.toList_inj.mp chars

theorem head?_mark {mark : String} {c : Char} {rest : List Char} (h : mark.toList = c :: rest)
    (name : String) : (mark ++ name).toList.head? = some c := by
  rw [String.toList_append, h]
  rfl

/-- The ids of the standard columns begin neither as the mark of the target run nor as a count. -/
theorem head?_id (scores : List String) :
    ∀ c ∈ standardColumns scores, c.id.toList.head? ≠ some 'c' := by
  intro c hc
  rcases List.mem_append.mp hc with hc | hc
  · have fixed : ∀ c ∈ standardColumns [], c.id.toList.head? ≠ some 'c' := by decide
    exact fixed c (List.mem_append_left _ hc)
  · obtain ⟨name, _, rfl⟩ := List.mem_map.mp hc
    show (scoreMark ++ name).toList.head? ≠ some 'c'
    rw [head?_mark rfl]
    decide

variable {scores : List String}

/-- Scores with different names have columns with different ids. -/
theorem nodup_ids (h : scores.Nodup) : ((standardColumns scores).map EvalColumn.id).Nodup := by
  have split : (standardColumns scores).map EvalColumn.id
      = (standardColumns []).map EvalColumn.id ++ scores.map (scoreMark ++ ·) := by
    show (_ ++ scores.map scoreColumn).map EvalColumn.id = _
    rw [List.map_append, List.map_map]
    rfl
  have fixed : ((standardColumns []).map EvalColumn.id).Nodup := by decide
  have apart : ∀ id ∈ (standardColumns []).map EvalColumn.id, id.toList.head? ≠ some 's' := by decide
  rw [split, List.nodup_append]
  -- the fixed ids differ, the marked ones do, and no fixed one begins as the mark does
  refine ⟨fixed, h.map (mark_injective scoreMark), ?_⟩
  rintro id hid _ marked rfl
  obtain ⟨name, _, rfl⟩ := List.mem_map.mp marked
  exact apart _ hid (head?_mark rfl name)

/-- Marked ids of some of the columns are different. -/
theorem nodup_marked (h : scores.Nodup) (mark : String) (p : EvalColumn → Bool) :
    (((standardColumns scores).filter p).map fun c => mark ++ c.id).Nodup := by
  have ids : (((standardColumns scores).filter p).map EvalColumn.id).Nodup :=
    (nodup_ids h).sublist (List.filter_sublist.map _)
  have marked := ids.map (mark_injective mark)
  rwa [List.map_map] at marked

/-- The names of the results of a run differ. -/
theorem nodup_runOutputs (h : scores.Nodup) :
    ((runOutputs (standardColumns scores)).map Output.name).Nodup := by
  rw [names_runOutputs]
  exact nodup_ids h

theorem nodup_joinedOutputs (h : scores.Nodup) :
    ((joinedOutputs (standardColumns scores)).map Output.name).Nodup := by
  rw [joinedOutputs, List.map_append, List.map_map, List.map_map, List.nodup_append]
  refine ⟨nodup_ids h, nodup_marked h comparedMark _, ?_⟩
  rintro id hid _ marked rfl
  obtain ⟨c, hc, rfl⟩ := List.mem_map.mp hid
  obtain ⟨d, _, same⟩ := List.mem_map.mp marked
  -- a marked id begins with a letter that no id begins with
  have same : comparedMark ++ d.id = c.id := same
  exact head?_id scores c hc (same ▸ head?_mark rfl d.id)

theorem nodup_statsOutputs (h : scores.Nodup) :
    ((statsOutputs (standardColumns scores)).map Output.name).Nodup := by
  rw [statsOutputs, List.map_append, List.map_map, List.nodup_append]
  refine ⟨nodup_marked h averageMark _, List.nodup_singleton _, ?_⟩
  rintro id hid _ counted rfl
  obtain ⟨c, _, same⟩ := List.mem_map.mp hid
  -- nor does the name of the count begin as an average does
  have same : averageMark ++ c.id = "count" := same.trans (List.mem_singleton.mp counted)
  have head : (averageMark ++ c.id).toList.head? = some 'a' := head?_mark rfl c.id
  rw [same] at head
  exact absurd head (by decide)

end Evaluation

/-! ## Queries -/

/-- A text is a statement that shows these outputs. -/
def Shows (text : String) (outputs : List Output) : Prop :=
  ∃ s : Statement, text = s.text ∧ s.columns = outputs.map Output.text

theorem Select.shows {s : Select} {q : Query} (built : s.build = .ok q) {outputs : List Output}
    (columns : s.columns = outputs.map Output.text) : Shows q.text outputs :=
  ⟨s.statement, text_of_build built, columns⟩

namespace EvalOptions

open Evaluation

/-- What stands around the two runs that are asked for. -/
def around (o : EvalOptions) : Joined := joined o.allColumns ⟨o.order.1.id, o.order.2⟩

/-- Two joined runs show the outputs that the statement around them refers to. -/
theorem shows_of_target {o : EvalOptions} {target : String} (ht : o.targetId = some target) {q : Query}
    (built : o.runQuery = .ok q) : ∃ primary compared : String,
      q.text = o.around.text primary compared ∧ Shows primary (runOutputs o.allColumns) ∧
        Shows compared (targetOutputs o.allColumns) := by
  rw [runQuery_eq] at built
  obtain ⟨primary, builtPrimary, joined⟩ := bind_eq_ok built
  rw [o.joinTarget_of_some ht] at joined
  obtain ⟨compared, builtCompared, joined⟩ := bind_eq_ok joined
  obtain ⟨params, _, checked⟩ := bind_eq_ok joined
  refine ⟨primary.text, compared.text, ?_, Select.shows builtPrimary (text_runOutputs _),
    Select.shows builtCompared (text_runOutputs _)⟩
  rw [Query.check_eq_ok checked]
  exact joinedText_eq_text _ _ _ _

/-- Whatever the columns and the wish to sort are, what two joined runs refer to is shown by them, and the
    index by both.  And the names of different scores give different names, also quoted, in the results
    of a run, of two joined runs and of the statistics. -/
theorem aliases_resolve_and_differ :
    (∀ (options : EvalOptions) (target : String) (q : Query),
      let o : EvalOptions := { options with targetId := some target }
      o.runQuery = .ok q →
        (∃ primary compared : String, q.text = o.around.text primary compared ∧
          Shows primary (runOutputs o.allColumns) ∧ Shows compared (targetOutputs o.allColumns)) ∧
        (∀ r ∈ o.around.references,
          r.ResolvesIn (runOutputs o.allColumns) (targetOutputs o.allColumns)) ∧
        indexId ∈ (runOutputs o.allColumns).map Output.name ∧
        indexId ∈ (targetOutputs o.allColumns).map Output.name) ∧
      ∀ (options : EvalOptions) (scores : List String), scores.Nodup →
        let o : EvalOptions := { options with columns := standardColumns scores }
        (∀ q, { o with targetId := none }.runQuery = .ok q → Shows q.text (runOutputs o.allColumns)) ∧
          (∀ q, o.statsQuery = .ok q → Shows q.text (statsOutputs o.allColumns)) ∧
          (quotedNames (runOutputs o.allColumns)).Nodup ∧ (quotedNames o.around.outputs).Nodup ∧
          (quotedNames (statsOutputs o.allColumns)).Nodup := by
  refine ⟨?_, ?_⟩
  · intro options target q o built
    have index : ∃ c ∈ o.allColumns, c.id = indexId := by
      obtain ⟨c, hc, isIndex⟩ := o.index_mem_allColumns
      exact ⟨c, hc, eq_of_beq isIndex⟩
    have sorted : o.order.1.id ∈ o.allColumns.map EvalColumn.id :=
      List.mem_map_of_mem o.order_mem_allColumns
    exact ⟨shows_of_target rfl built, resolves_of_mem index sorted, index_mem_names index⟩
  · intro options scores different o
    have columns : o.allColumns = standardColumns scores := withIndex_standardColumns scores
    refine ⟨?_, ?_, ?_, ?_, ?_⟩
    · intro q built
      rw [runQuery_of_none _ rfl] at built
      exact Select.shows built (text_runOutputs _)
    · intro q built
      refine Select.shows built ?_
      rw [statsOutputs, List.map_append, List.map_map]
      rfl
    · rw [columns]
      exact nodup_quotedNames (nodup_runOutputs different)
    · rw [around, outputs_joined, columns]
      exact nodup_quotedNames (nodup_joinedOutputs different)
    · rw [columns]
      exact nodup_quotedNames (nodup_statsOutputs different)

/-- A column that is no index, a wish to sort by another one, and scores of which one has the other's
    name and a backtick. -/
theorem aliases_resolve_withoutIndex :
    ∃ (o : EvalOptions) (q : Query), o.columns = [⟨"a`b", "dp.x", none, none, true⟩] ∧
      o.sort = some ⟨"c", .desc⟩ ∧ o.runQuery = .ok q ∧
      (∀ r ∈ o.around.references,
        r.ResolvesIn (runOutputs o.allColumns) (targetOutputs o.allColumns)) ∧
      (quotedNames { o with columns := standardColumns ["a", "a`"] }.around.outputs).Nodup := by
  let o : EvalOptions :=
    { evaluationId := "e", targetId := some "t", columns := [⟨"a`b", "dp.x", none, none, true⟩]
      filters := [], traceIds := [], sort := some ⟨"c", .desc⟩, page := none }
  have silent : ∀ c ∈ o.columns, c.Silent := by
    have plain : ∀ c ∈ o.columns, c.Plain := by decide
    exact fun c hc => (plain c hc).silent
  have expressible : ∀ e, .error e ∉ o.primarySelect.outcomes := Select.expressible_of_isOk rfl
  obtain ⟨q, ran, _⟩ := runQuery_closed silent expressible
  obtain ⟨_, resolves, _⟩ := aliases_resolve_and_differ.1 o "t" q ran
  obtain ⟨_, _, _, differ, _⟩ := aliases_resolve_and_differ.2 o ["a", "a`"] (by decide)
  exact ⟨o, q, rfl, rfl, ran, resolves, differ⟩

end EvalOptions

end TraceQuery
