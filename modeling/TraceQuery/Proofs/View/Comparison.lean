/-
  A run beside a target run is the run on its own, with something joined to it.

  1. **The target run** (`Evaluation.targetText`): its statement is a function of the columns alone.  It
     has one condition and no filter, no order and no page; its one parameter is the target
     (`Evaluation.exists_compared`).
  2. **Both runs** (`EvalOptions.runQuery_of_target`): the statement of the run stands in the joined one
     as it is, and the joined statement has the parameters of the run and the target.
  3. **Errors** are those of the run: nothing can go wrong with the target run or with the joining
     (`EvalOptions.comparison_extends_run`).

  Mathlib-free.
-/
import TraceQuery.Proofs.View.Closed

namespace TraceQuery

open TraceQuery.Sql

/-- A binding of a new name is inserted. -/
theorem Parameters.bindAll_of_not_mem {p : Parameters} {name : String} (fresh : name ∉ p.names)
    (value : ParamValue) : p.bindAll [(name, value)] = .ok (p.insert name value) := by
  rw [bindAll_cons, bind, find?_eq_none_iff.mpr fresh]
  rfl

namespace Evaluation

/-! ## The target run -/

/-- The statement of a target run: the index and the comparable columns of its datapoints. -/
def targetText (columns : List EvalColumn) : String :=
  Statement.text
    { columns := ((withIndex columns).filter fun c => c.id == indexId || c.comparable).map
        EvalColumn.projection
      table
      conditions := ["dp.evaluation_id = " ++ placeholder "targetId" .uuid]
      groupBy := []
      groupConditions := []
      orderBy := []
      page := none }

/-- A target run can always be stated; it binds the target and nothing else. -/
theorem exists_compared (target : String) {columns : List EvalColumn}
    (h : ∀ c ∈ withIndex columns, c.Silent) :
    ∃ compared, (comparedSelect target (withIndex columns)).build = .ok compared ∧
      compared.text = targetText columns ∧ compared.parameters.entries = [("targetId", .string target)] ∧
      placeholderNames (targetText columns) = ["targetId"] := by
  have expressible : ∀ e, .error e ∉ (comparedSelect target (withIndex columns)).outcomes :=
    Select.expressible_of_isOk rfl
  obtain ⟨compared, built, closed, _⟩ :=
    (agreeing_comparedSelect target h).build_of_expressible expressible
  have text : compared.text = targetText columns := by
    rw [Select.text_of_build built]
    rfl
  -- the target is the only binding of the select, as nothing in it is filtered or paged
  have bound : Parameters.empty.bindAll [("targetId", .string target)] = .ok compared.parameters :=
    (Select.of_build_eq_ok built).2.1
  have entries : compared.parameters.entries = [("targetId", .string target)] := by
    rw [Parameters.bindAll_of_not_mem List.not_mem_nil] at bound
    exact Except.ok.inj bound ▸ rfl
  refine ⟨compared, built, text, entries, ?_⟩
  rw [← text, closed.names, Parameters.names, entries]
  rfl

end Evaluation

/-! ## Both runs -/

namespace EvalOptions

open Evaluation

variable {o : EvalOptions}

/-- The column that sorts a run is one of the run's. -/
theorem order_mem_allColumns (o : EvalOptions) : o.order.1 ∈ o.allColumns := by
  rcases orderColumn_cases o.sort o.allColumns with own | ⟨_, none⟩
  · exact own
  · obtain ⟨c, hc, isIndex⟩ := o.index_mem_allColumns
    rw [none c hc] at isIndex
    cases isIndex

/-- A run is joined to its target run: the text, and the parameters. -/
theorem runQuery_of_target (hc : ∀ c ∈ o.columns, c.Silent) {target : String}
    (ht : o.targetId = some target) {run : Query} (built : o.primarySelect.build = .ok run) :
    "targetId" ∉ run.parameters.names ∧ o.runQuery = .ok
      ⟨joinedText run.text (targetText o.columns) o.allColumns ⟨o.order.1.id, o.order.2⟩,
        run.parameters.insert "targetId" (.string target)⟩ := by
  obtain ⟨compared, built', text, entries, _⟩ := exists_compared target (silent_allColumns hc)
  have fresh : "targetId" ∉ run.parameters.names := by
    refine apart_compared hc built built' "targetId" ?_
    rw [Parameters.names, entries]
    exact List.mem_singleton.mpr rfl
  obtain ⟨q, joined, _⟩ := joinTarget_closed hc built
  refine ⟨fresh, ?_⟩
  rw [o.runQuery_of_ok built, joined]
  rw [o.joinTarget_of_some ht, allColumns, built'] at joined
  obtain ⟨params, bound, checked⟩ := bind_eq_ok (show comparison run compared _ _ = _ from joined)
  rw [entries, Parameters.bindAll_of_not_mem fresh] at bound
  rw [Query.check_eq_ok checked, text, Except.ok.inj bound, allColumns]

/-- With columns that refer to nothing, as the standard ones for any scores, a run beside a target fails
    as the run on its own does, and is built where that is.  Then the statement of the run, sorted by
    one of its columns, stands in the joined one, which is sorted by the name of that column in the same
    direction; the statement of the target run is made of the columns alone; and the parameters are
    those of the run and the target, which only the statement of the target run refers to. -/
theorem comparison_extends_run :
    (∀ scores, ∀ c ∈ standardColumns scores, c.Silent) ∧
      ∀ (o : EvalOptions) (target : String), (∀ c ∈ o.columns, c.Silent) →
        let single : EvalOptions := { o with targetId := none }
        let pair : EvalOptions := { o with targetId := some target }
        (∀ e, pair.runQuery = .error e ↔ single.runQuery = .error e) ∧
          ∀ run, single.runQuery = .ok run →
            pair.runQuery = .ok
                ⟨joinedText run.text (targetText o.columns) o.allColumns ⟨o.order.1.id, o.order.2⟩,
                  run.parameters.insert "targetId" (.string target)⟩ ∧
              "targetId" ∉ run.parameters.names ∧
              placeholderNames (targetText o.columns) = ["targetId"] ∧
              o.order.1 ∈ o.allColumns ∧
              ∃ rows, run.text = Statement.text ⟨o.allColumns.map EvalColumn.projection, table, rows, [],
                [], [⟨o.order.1.sql, o.order.2⟩], pageText o.page⟩ := by
  refine ⟨silent_standardColumns, fun o target silent => ?_⟩
  intro single pair
  have alone : single.runQuery = o.primarySelect.build := single.runQuery_of_none rfl
  have together {run : Query} (built : o.primarySelect.build = .ok run) :=
    runQuery_of_target (o := pair) silent rfl built
  refine ⟨fun e => ?_, fun run ran => ?_⟩
  · rw [alone]
    -- with a target no error is added to those of the run, and none is lost
    cases built : o.primarySelect.build with
    | error e' => rw [pair.runQuery_of_error built]
    | ok run =>
      rw [(together built).2]
      simp
  · rw [alone] at ran
    obtain ⟨_, _, _, _, names⟩ := exists_compared target (silent_allColumns silent)
    have text : run.text = o.primarySelect.statement.text := Select.text_of_build ran
    exact ⟨(together ran).2, (together ran).1, names, o.order_mem_allColumns, _, text⟩

/-- A column with a backtick in its id and braces in a literal, filtered; no index, and a wish to sort by
    a column that is not there. -/
theorem comparison_extends_run_quoted :
    ∃ (o : EvalOptions) (run : Query), { o with targetId := none }.runQuery = .ok run ∧
      { o with targetId := some "t" }.runQuery = .ok
        ⟨joinedText run.text (targetText o.columns) o.allColumns ⟨o.order.1.id, o.order.2⟩,
          run.parameters.insert "targetId" (.string "t")⟩ := by
  let o : EvalOptions :=
    { evaluationId := "e", targetId := none
      columns := [⟨"a`b", "'\x7bx:Int64\x7d'", none, some .string, true⟩]
      filters := [⟨"a`b", .eq, .text "1"⟩], traceIds := [], sort := some ⟨"c", .desc⟩
      page := some ⟨5, 0⟩ }
  have silent : ∀ c ∈ o.columns, c.Silent := by
    have plain : ∀ c ∈ o.columns, c.Plain := by decide
    exact fun c hc => (plain c hc).silent
  have expressible : ∀ e, .error e ∉ o.primarySelect.outcomes :=
    Select.expressible_of_isOk (by decide +kernel)
  obtain ⟨run, built, _⟩ := (agreeing_primary silent).build_of_expressible expressible
  have ran : { o with targetId := none }.runQuery = .ok run := (o.runQuery_of_none rfl).trans built
  exact ⟨o, run, ran, ((comparison_extends_run.2 o "t" silent).2 run ran).1⟩

end EvalOptions

end TraceQuery
