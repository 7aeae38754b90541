/-
  Names of scores in the statements of evaluation runs.

  Whether the name of a score can get out of its quotes is decided by the way an identifier is
  written: a backtick is doubled, a backslash is not escaped, though it escapes.

  1. **Statements** (`EvalOptions.stands_of_statsQuery`, `EvalOptions.stands_of_runQuery`): besides
     the projections all texts of a statement are whole, so each projection, and the order of two
     joined runs, is read in the finished statement as it is read on its own.
  2. **The condition** (`EvalRequest.names_held_iff_sealed`): sealed names, and no others, stay where
     they are meant to; names without a backslash, and no others, are read back.  A name that ends
     with a backslash takes the SQL behind it into its span, and the name of the next score becomes
     SQL (`EvalRequest.names_not_held`).
-/
import TraceQuery.Proofs.View.Outputs

namespace TraceQuery

open TraceQuery.Sql

/-! ## Selects -/

theorem Statement.projection_of_outputs {s : Statement} {outputs : List Output}
    (h : s.columns = outputs.map Output.text) (ne : outputs ≠ []) : s.projection = listed outputs := by
  have some : s.columns ≠ [] := by simpa [h] using ne
  rw [projection, if_neg (by simpa using some), h, listed]

/-- The query of a select of outputs is whole, and the list of the outputs stands in it. -/
theorem Select.Readable.outputs {s : Select} (h : s.Readable) {outputs : List Output}
    (columns : s.columns = outputs.map Output.text) (ne : outputs ≠ []) {q : Query}
    (built : s.build = .ok q) : Whole q.text ∧ Stands (listed outputs) q.text := by
  have := h.built built
  rwa [Statement.projection_of_outputs columns ne] at this

namespace Evaluation

variable {columns : List EvalColumn}

theorem whole_runCondition {param : String} (hp : isName param.toList = true) (run : String) :
    Whole (runCondition param run).text :=
  Whole.append (Unquoted.whole (by decide)) (whole_placeholder hp .uuid)

/-- Filters on readable columns write whole conditions. -/
theorem writesWhole_columnFilters (h : ∀ c ∈ columns, c.Readable) :
    (columnFilters columns).All ColumnFilter.WritesWhole := by
  refine ColumnFilters.all_ofList ?_
  intro e he
  obtain ⟨c, hc, he⟩ := List.mem_filterMap.mp he
  obtain ⟨f, hf, rfl⟩ := Option.map_eq_some_iff.mp he
  exact EvalColumn.writesWhole_filter? (h c hc) hf

/-- The select of a target run can be read if its columns can. -/
theorem readable_comparedSelect (target : String) (h : ∀ c ∈ columns, c.Readable) :
    (comparedSelect target columns).Readable where
  columns := by
    intro t ht
    obtain ⟨c, hc, rfl⟩ := List.mem_map.mp ht
    have readable := h c (List.mem_filter.mp hc).1
    exact Output.Readable.whole (o := ⟨c.sql, c.id⟩) ⟨readable.sql, readable.id⟩
  table := show Whole table from Unquoted.whole (by decide)
  window := fun _ hr => nomatch hr
  rows := fun _ hcs => nomatch hcs
  conditions := by
    intro c hc
    rw [List.mem_singleton.mp hc]
    exact whole_runCondition (by decide) target
  groupBy := fun _ ht => nomatch ht
  groups := fun _ hcs => nomatch hcs
  orderBy := fun _ ht => nomatch ht

/-! ## Two joined runs -/

/-- The text of two joined runs, cut up. -/
def joinedParts (primary compared : String) (columns : List EvalColumn) (sort : EvalSort) :
    List String :=
  ["SELECT ", listed (joinedOutputs columns), "\nFROM (\n", primary, "\n) AS p\nANY LEFT JOIN (\n",
    compared, "\n) AS c ON " ++ primaryName indexId ++ " = " ++ comparedName indexId,
    "\nORDER BY " ++ primaryName sort.column, " " ++ sort.direction.sql,
    "\nSETTINGS join_use_nulls = 1"]

/-- The text of two joined runs is its parts, one after another. -/
theorem joinedText_eq (primary compared : String) (columns : List EvalColumn) (sort : EvalSort) :
    joinedText primary compared columns sort
      = String.join (joinedParts primary compared columns sort) := by
  have outputs : listed (joinedOutputs columns) = ", ".intercalate (joinedColumns columns) := by
    rw [listed, joinedOutputs, List.map_append, List.map_map, List.map_map]
    rfl
  have grouped (a b c d e f g h i j k l m n : String) :
      a ++ b ++ c ++ d ++ e ++ f ++ g ++ h ++ i ++ j ++ k ++ l ++ " " ++ m ++ n
        = String.join [a, b, c, d, e, f, g ++ h ++ i ++ j, k ++ l, " " ++ m, n] := by
    simp only [String.join_cons, String.join_nil, String.append_empty, String.append_assoc]
  unfold joinedParts
  rw [← grouped, outputs]
  rfl

/-- The texts of two joined runs are whole where both runs are and the columns can be read. -/
theorem whole_joinedParts {primary compared : String} (hp : Whole primary) (hc : Whole compared)
    (h : ∀ c ∈ columns, c.Readable) (sort : EvalSort) (hs : Sealed sort.column) :
    ∀ t ∈ joinedParts primary compared columns sort, Whole t := by
  have text {s : String} (hs : Unquoted s) : Whole s := hs.whole
  have index : Sealed indexId := by decide
  have on : Whole ("\n) AS c ON " ++ primaryName indexId ++ " = " ++ comparedName indexId) := by
    have left : Whole ("\n) AS c ON " ++ primaryName indexId) :=
      Whole.append (text (by decide)) (whole_qualified (by decide) (by decide) index)
    exact (left.append (text (by decide))).append (whole_qualified (by decide) (by decide) index)
  have order : Whole ("\nORDER BY " ++ primaryName sort.column) :=
    Whole.append (text (by decide)) (whole_qualified (by decide) (by decide) hs)
  have direction : Unquoted (" " ++ sort.direction.sql) := by
    cases sort.direction with
    | asc => decide
    | desc => decide
  simp only [joinedParts, List.forall_mem_cons]
  exact ⟨text (by decide), whole_listed (readable_joinedOutputs h), text (by decide), hp,
    text (by decide), hc, on, order, text direction, text (by decide),
    fun _ ht => absurd ht List.not_mem_nil⟩

end Evaluation

/-! ## The queries -/

namespace EvalOptions

open Evaluation

variable {o : EvalOptions} {q : Query}

/-- What the statistics of a run show, as SQL. -/
def statsProjection (o : EvalOptions) : String := listed (statsOutputs o.allColumns)

/-- What a run shows, as SQL. -/
def runProjection (o : EvalOptions) : String := listed (runOutputs o.allColumns)

/-- What a target run shows, as SQL. -/
def targetProjection (o : EvalOptions) : String := listed (targetOutputs o.allColumns)

/-- What two joined runs show, as SQL. -/
def joinedProjection (o : EvalOptions) : String := listed (joinedOutputs o.allColumns)

/-- The order of two joined runs. -/
def joinedOrder (o : EvalOptions) : String := "\nORDER BY " ++ primaryName o.order.1.id

/-- The fixed conditions of a run are whole. -/
theorem whole_conditions (o : EvalOptions) : ∀ c ∈ o.conditions, Whole c.text := by
  intro c hc
  rcases List.mem_cons.mp hc with rfl | hc
  · exact whole_runCondition (by decide) o.evaluationId
  · rw [idsConditions] at hc
    split at hc
    · cases hc
    · rw [List.mem_singleton.mp hc]
      have front : Unquoted ("dp.trace_id" ++ " IN (") := by decide
      exact (front.whole.append (whole_placeholder (by decide) (.array .uuid))).append
        (Unquoted.whole (by decide))

/-- A select of a run can be read if its columns and what it shows can. -/
theorem readable_selectOf (h : ∀ c ∈ o.allColumns, c.Readable) {outputs : List Output}
    (ho : ∀ out ∈ outputs, out.Readable) {orderBy : List SortTerm}
    (hs : ∀ t ∈ orderBy, Whole t.expression) (page : Option Page) :
    (o.selectOf (outputs.map Output.text) orderBy page).Readable where
  columns := by
    intro t ht
    obtain ⟨out, hout, rfl⟩ := List.mem_map.mp ht
    exact (ho out hout).whole
  table := show Whole table from Unquoted.whole (by decide)
  window := fun _ hr => nomatch hr
  rows := fun _ hcs => Option.some.inj hcs ▸ writesWhole_columnFilters h
  conditions := o.whole_conditions
  groupBy := fun _ ht => nomatch ht
  groups := fun _ hcs => nomatch hcs
  orderBy := hs

/-- The column that sorts a run can be read if all can: it is one of them, or the index. -/
theorem readable_order (h : ∀ c ∈ o.allColumns, c.Readable) : o.order.1.Readable :=
  orderColumn_all (P := EvalColumn.Readable) (by decide +kernel) h o.sort

/-- The projection of the statistics stands in their query as it is. -/
theorem stands_of_statsQuery (h : ∀ c ∈ o.allColumns, c.Readable) (built : o.statsQuery = .ok q) :
    Stands o.statsProjection q.text := by
  have order : ∀ t ∈ ([] : List SortTerm), Whole t.expression := fun _ ht => nomatch ht
  have readable := readable_selectOf h (readable_statsOutputs h) order none
  refine (readable.outputs rfl (by simp [statsOutputs]) ?_).2
  rw [statsOutputs, List.map_append, List.map_map]
  exact built

/-- The projection of a run stands in its query as it is.  Beside a target run that of the target run and
    that of the joined runs do too, and so does their order. -/
theorem stands_of_runQuery (h : ∀ c ∈ o.allColumns, c.Readable) (built : o.runQuery = .ok q) :
    Stands o.runProjection q.text ∧ (o.targetId ≠ none → Stands o.targetProjection q.text ∧
      Stands o.joinedProjection q.text ∧ Stands o.joinedOrder q.text) := by
  obtain ⟨index, mem, isIndex⟩ := o.index_mem_allColumns
  rw [runQuery_eq, text_runOutputs] at built
  obtain ⟨primary, builtPrimary, joined⟩ := bind_eq_ok built
  have order : ∀ t ∈ [(⟨o.order.1.sql, o.order.2⟩ : SortTerm)], Whole t.expression := by
    intro t ht
    rw [List.mem_singleton.mp ht]
    exact (readable_order h).sql
  have readable := readable_selectOf h (readable_runOutputs h) order o.page
  obtain ⟨wholePrimary, inPrimary⟩ := readable.outputs rfl
    (by simpa [runOutputs] using List.ne_nil_of_mem mem) builtPrimary
  -- the primary run is a part of the joined text, so what stands in the one stands in the other
  cases ht : o.targetId with
  | none =>
    rw [o.joinTarget_of_none ht] at joined
    rw [← Except.ok.inj joined]
    exact ⟨inPrimary, fun some => absurd rfl some⟩
  | some target =>
    rw [o.joinTarget_of_some ht] at joined
    obtain ⟨compared, builtCompared, joined⟩ := bind_eq_ok joined
    -- a target run shows an index, if nothing else
    have chosen : index ∈ o.allColumns.filter fun c => c.id == indexId || c.comparable :=
      List.mem_filter.mpr ⟨mem, by rw [isIndex]; rfl⟩
    have nonempty : targetOutputs o.allColumns ≠ [] := by
      simpa only [targetOutputs, runOutputs, ne_eq, List.map_eq_nil_iff] using
        List.ne_nil_of_mem chosen
    obtain ⟨wholeCompared, inCompared⟩ := (readable_comparedSelect target h).outputs
      (text_runOutputs _) nonempty builtCompared
    obtain ⟨params, _, checked⟩ := bind_eq_ok joined
    have parts := whole_joinedParts wholePrimary wholeCompared h ⟨o.order.1.id, o.order.2⟩
      (readable_order h).id
    have text : q.text = String.join (joinedParts primary.text compared.text o.allColumns
        ⟨o.order.1.id, o.order.2⟩) := by
      rw [Query.check_eq_ok checked]
      exact joinedText_eq _ _ _ _
    rw [text]
    refine ⟨inPrimary.trans (stands_join parts ?_), fun _ => ⟨inCompared.trans (stands_join parts ?_),
      stands_join parts ?_, stands_join parts ?_⟩⟩
    · simp [joinedParts]
    · simp [joinedParts]
    · simp [joinedParts, joinedProjection]
    · simp [joinedParts, joinedOrder]

end EvalOptions

/-! ## Requests -/

namespace EvalRequest

open Evaluation EvalOptions

/-- What any of the projections of a request shows. -/
def outputs (r : EvalRequest) : List Output :=
  runOutputs r.toOptions.allColumns ++ statsOutputs r.toOptions.allColumns ++
    targetOutputs r.toOptions.allColumns ++ joinedOutputs r.toOptions.allColumns

/-- The parts of statements that hold names of scores. -/
def namedParts : List (EvalOptions → String) :=
  [statsProjection, runProjection, targetProjection, joinedProjection, joinedOrder]

variable {r r' : EvalRequest}

/-- The columns of a request are the standard ones for its scores; the index is among these. -/
theorem allColumns_toOptions (r : EvalRequest) :
    r.toOptions.allColumns = standardColumns r.scoreNames :=
  withIndex_standardColumns r.scoreNames

theorem readable_columns (h : ∀ name ∈ r.scoreNames, Sealed name) :
    ∀ c ∈ r.toOptions.allColumns, c.Readable := by
  rw [allColumns_toOptions]
  exact readable_standardColumns h

/-- Everything can be read that the queries of a request with sealed names show. -/
theorem readable_outputs (h : ∀ name ∈ r.scoreNames, Sealed name) : ∀ o ∈ r.outputs, o.Readable := by
  have columns := readable_columns h
  intro o ho
  simp only [outputs, List.mem_append] at ho
  rcases ho with ((ho | ho) | ho) | ho
  · exact readable_runOutputs columns o ho
  · exact readable_statsOutputs columns o ho
  · exact readable_targetOutputs columns o ho
  · exact readable_joinedOutputs columns o ho

/-- The names of outputs are read as identifiers exactly if the names of scores are sealed. -/
theorem named_outputs_iff :
    (∀ o ∈ r.outputs, o.Named) ↔ ∀ name ∈ r.scoreNames, Sealed name := by
  constructor
  · intro named name hn
    have column : scoreColumn name ∈ r.toOptions.allColumns := by
      rw [allColumns_toOptions]
      exact List.mem_append_right _ (List.mem_map_of_mem hn)
    -- each score is an output of its run, under a name that holds the score's
    have shown : ⟨(scoreColumn name).sql, (scoreColumn name).id⟩ ∈ r.outputs := by
      simp only [outputs, List.mem_append]
      exact .inl (.inl (.inl (List.mem_map_of_mem column)))
    exact (sealed_mark (by decide)).mp ((named _ shown).sealed (whole_scoreColumn name))
  · intro h o ho
    exact (readable_outputs h o ho).named

/-- What is read as SQL depends on the number of scores, not on their names. -/
theorem outside_namedParts (h : ∀ name ∈ r.scoreNames, Sealed name)
    (h' : ∀ name ∈ r'.scoreNames, Sealed name)
    (same : r.scoreNames.length = r'.scoreNames.length) :
    ∀ part ∈ namedParts, outside (read (part r.toOptions)) = outside (read (part r'.toOptions)) := by
  have columns := readable_columns h
  have columns' := readable_columns h'
  have alike : List.Forall₂ EvalColumn.Alike r.toOptions.allColumns r'.toOptions.allColumns := by
    rw [allColumns_toOptions, allColumns_toOptions]
    exact alike_standardColumns h h' same
  have mark : Unquoted ("\nORDER BY " ++ "p.") := by decide
  have order {r : EvalRequest} (columns : ∀ c ∈ r.toOptions.allColumns, c.Readable) :
      outside (read (joinedOrder r.toOptions)) = ("\nORDER BY " ++ "p.").toList := by
    rw [joinedOrder, primaryName, ← String.append_assoc]
    exact outside_qualified mark (readable_order columns).id
  simp only [namedParts, List.forall_mem_cons]
  refine ⟨?_, ?_, ?_, ?_, ?_, fun _ hp => absurd hp List.not_mem_nil⟩
  · exact outside_listed (readable_statsOutputs columns) (readable_statsOutputs columns')
      (alike_statsOutputs alike)
  · exact outside_listed (readable_runOutputs columns) (readable_runOutputs columns')
      (alike_runOutputs alike)
  · exact outside_listed (readable_targetOutputs columns) (readable_targetOutputs columns')
      (alike_targetOutputs alike)
  · exact outside_listed (readable_joinedOutputs columns) (readable_joinedOutputs columns')
      (alike_joinedOutputs alike)
  · rw [order columns, order columns']

/-- Which names stay in their quotes, by the rule of a server that knows backslashes in identifiers.

    1. An identifier is read back exactly if there is no backslash in it, and it ends where it was
       meant to exactly if it is sealed.
    2. The name of every output of a request is one identifier exactly if all names of scores are
       sealed.
    3. Then what is read as SQL in a projection or in the order of two joined runs is the same for all
       such requests with as many scores.
    4. It is read so in the finished statement too. -/
theorem names_held_iff_sealed (r : EvalRequest) :
    (∀ (s : String) (rest : List Char), rest.head? ≠ some backtick →
      (readIdentifier ((quoteIdentifier s).toList ++ rest) = some (s.toList, rest) ↔
        backslash ∉ s.toList) ∧
      ((∃ text, readIdentifier ((quoteIdentifier s).toList ++ rest) = some (text, rest)) ↔
        Sealed s)) ∧
    ((∀ o ∈ r.outputs, o.Named) ↔ ∀ name ∈ r.scoreNames, Sealed name) ∧
    ((∀ name ∈ r.scoreNames, Sealed name) →
      (∀ r' : EvalRequest, (∀ name ∈ r'.scoreNames, Sealed name) →
        r.scoreNames.length = r'.scoreNames.length → ∀ part ∈ namedParts,
        outside (read (part r.toOptions)) = outside (read (part r'.toOptions))) ∧
      (∀ q, r.toOptions.statsQuery = .ok q → ReadApart r.toOptions.statsProjection q.text) ∧
      (∀ q, r.toOptions.runQuery = .ok q → ReadApart r.toOptions.runProjection q.text ∧
        (r.toOptions.targetId ≠ none → ReadApart r.toOptions.targetProjection q.text ∧
          ReadApart r.toOptions.joinedProjection q.text ∧
          ReadApart r.toOptions.joinedOrder q.text))) := by
  refine ⟨?_, named_outputs_iff, ?_⟩
  · intro s rest seam
    rw [readIdentifier_quoteIdentifier]
    refine ⟨⟨?_, ?_⟩, ⟨?_, ?_⟩⟩
    · intro back
      have ends := sealed_of_readQuoted back
      rw [readQuoted_identifier ends seam] at back
      simp only [Option.some.injEq, Prod.mk.injEq, and_true] at back
      exact (denoted_eq_iff ends).mp back
    · intro none
      obtain ⟨ends, same⟩ := sealed_of_not_mem none
      rw [readQuoted_identifier ends seam, same]
    · rintro ⟨text, back⟩
      exact sealed_of_readQuoted back
    · intro ends
      exact ⟨_, readQuoted_identifier ends seam⟩
  · intro h
    have columns := readable_columns h
    refine ⟨fun r' => outside_namedParts h, ?_, ?_⟩
    · intro q built
      exact (stands_of_statsQuery columns built).readApart
    · intro q built
      obtain ⟨run, joined⟩ := stands_of_runQuery columns built
      refine ⟨run.readApart, ?_⟩
      intro target
      obtain ⟨compared, projection, order⟩ := joined target
      exact ⟨compared.readApart, projection.readApart, order.readApart⟩

/-- Names with quotes and with a backslash in front of a letter are held. -/
theorem names_held_of_quotes :
    ∃ r : EvalRequest, r.scoreNames = ["it's", "a`b", "c\\d"] ∧
      readIdentifier ((quoteIdentifier "a`b").toList ++ [',']) = some ("a`b".toList, [',']) ∧
      outside (read (joinedOrder r.toOptions))
        = outside (read (joinedOrder { r with scoreNames := ["", "", ""] }.toOptions)) ∧
      (∃ q, r.toOptions.statsQuery = .ok q ∧ ReadApart r.toOptions.statsProjection q.text) ∧
      ∃ q, r.toOptions.runQuery = .ok q ∧ ReadApart r.toOptions.runProjection q.text ∧
        ReadApart r.toOptions.joinedOrder q.text := by
  let r : EvalRequest :=
    { evaluationId := "e", targetId := some "t", scoreNames := ["it's", "a`b", "c\\d"], filters := [],
      traceIds := [], sortBy := some "score:a`b", sortDirection := none, page := PageInput.none }
  have names : ∀ name ∈ r.scoreNames, Sealed name := by decide
  have plain : ∀ c ∈ r.toOptions.columns, c.Plain := plain_standardColumns r.scoreNames
  obtain ⟨identifiers, _, held⟩ := names_held_iff_sealed r
  obtain ⟨alike, stats, run⟩ := held names
  refine ⟨r, rfl, (identifiers "a`b" [','] (by decide)).1.mpr (by decide), ?_, ?_, ?_⟩
  · exact alike { r with scoreNames := ["", "", ""] } (by decide) rfl joinedOrder
      (by simp [namedParts])
  · rcases statsQuery_answers plain with ⟨q, built, _⟩ | ⟨f, hf, _⟩
    · exact ⟨q, built, stats q built⟩
    · cases hf
  · rcases runQuery_answers plain with ⟨q, built, _⟩ | ⟨f, hf, _⟩
    · obtain ⟨projection, joined⟩ := run q built
      exact ⟨q, built, projection, (joined (by decide)).2.2⟩
    · cases hf

/-- A backslash at the end of a name takes the closing backtick into the span; one in front of a
    backtick makes the rest of the name SQL; and behind a name that ends with a backslash the next
    name is SQL. -/
theorem names_not_held :
    readIdentifier (quoteIdentifier "\\").toList = none ∧
      readIdentifier (quoteIdentifier "\\`b").toList = some ("`".toList, "b`".toList) ∧
      ∃ r : EvalRequest, r.scoreNames = ["\\", ", 1 --"] ∧
        ", 1 --".toList <:+ outside (read (runProjection r.toOptions)) := by
  refine ⟨by decide, by decide,
    ⟨"e", none, ["\\", ", 1 --"], [], [], none, none, .none⟩, rfl, ?_⟩
  have fixed := readable_runOutputs readable_fixedColumns
  have scores : ", 1 --".toList <:+ outside (read (listed
      (runOutputs [scoreColumn "\\", scoreColumn ", 1 --"]))) := by decide +kernel
  -- the fixed columns are read before the scores, whatever these do to the rest
  obtain ⟨front, same⟩ := read_listed_append fixed
    ⟨(scoreColumn "\\").sql, (scoreColumn "\\").id⟩ (runOutputs [scoreColumn ", 1 --"])
  have split : runOutputs (standardColumns ["\\", ", 1 --"])
      = runOutputs (standardColumns []) ++ runOutputs [scoreColumn "\\", scoreColumn ", 1 --"] := by
    simp [standardColumns, runOutputs]
  rw [runProjection, allColumns_toOptions, split]
  refine scores.trans ⟨outside front, ?_⟩
  rw [← outside_append]
  exact congrArg outside same.symm

end EvalRequest

end TraceQuery
