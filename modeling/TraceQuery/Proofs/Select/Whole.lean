/-
  A statement as a server reads it.

  A server reads a statement from its front, so what it takes for SQL in one clause depends on the
  quotes of all clauses before it.

  1. **Parts** (`Stands`): a part that stands between whole texts is read as it is read on its own
     (`Stands.readApart`), and so is a part of a part (`Stands.trans`).
  2. **Statements** (`Statement.whole_text`): a statement whose parts are whole is whole, and its
     projection stands in it.
  3. **Filters** (`ColumnFilter.WritesWhole`): text, number and array filters over whole columns write
     whole conditions.  Their placeholders hold no quote, whatever the filter's column is called.
  4. **Selects** (`Select.Readable`): of whole texts and such filters a select makes a statement of
     whole parts.

  Mathlib-free.
-/
import TraceQuery.Proofs.Sql.Lexemes
import TraceQuery.Proofs.Select.Agreeing

namespace TraceQuery

open TraceQuery.Sql

/-! ## Parts -/

namespace Sql

/-- The text is read part by part: what is in front, the part, and what is behind it. -/
def ReadApart (part text : String) : Prop :=
  ∃ front back, text = front ++ part ++ back ∧ read text = read front ++ read part ++ read back

/-- A whole part of a text, between texts that are whole. -/
def Stands (part text : String) : Prop :=
  Whole part ∧ ∃ front back, Whole front ∧ Whole back ∧ text = front ++ part ++ back

variable {part inner text : String}

/-- A part that stands in a text is read apart. -/
theorem Stands.readApart (h : Stands part text) : ReadApart part text := by
  obtain ⟨whole, front, back, hf, hb, rfl⟩ := h
  refine ⟨front, back, rfl, ?_⟩
  rw [read_append (hf.append whole).ends hb.front, read_append hf.ends whole.front]

/-- A part of a part that stands in a text stands in the text too. -/
theorem Stands.trans (h : Stands part inner) (h' : Stands inner text) : Stands part text := by
  obtain ⟨whole, front, back, hf, hb, rfl⟩ := h
  obtain ⟨_, front', back', hf', hb', rfl⟩ := h'
  exact ⟨whole, front' ++ front, back ++ back', hf'.append hf, hb.append hb',
    by simp only [String.append_assoc]⟩

/-- Whole texts side by side are whole. -/
theorem whole_join {parts : List String} (h : ∀ t ∈ parts, Whole t) : Whole (String.join parts) := by
  induction parts with
  | nil =>
    rw [String.join_nil]
    exact Unquoted.whole (by decide)
  | cons t parts ih =>
    rw [String.join_cons]
    exact (h t List.mem_cons_self).append (ih fun u hu => h u (List.mem_cons_of_mem t hu))

/-- Of whole texts side by side each stands in the whole. -/
theorem stands_join {parts : List String} (h : ∀ t ∈ parts, Whole t) (hp : part ∈ parts) :
    Stands part (String.join parts) := by
  obtain ⟨before, behind, rfl⟩ := List.append_of_mem hp
  refine ⟨h part hp, String.join before, String.join behind, ?_, ?_, ?_⟩
  · exact whole_join fun t ht => h t (List.mem_append_left _ ht)
  · exact whole_join fun t ht => h t (List.mem_append_right _ (List.mem_cons_of_mem part ht))
  · rw [String.join_append, String.join_cons, String.append_assoc]

end Sql

/-! ## Statements -/

/-- A clause of whole parts is whole. -/
theorem whole_clause {keyword separator : String} (hk : Unquoted (keyword ++ " "))
    (hs : Unquoted separator) {parts : List String} (h : ∀ part ∈ parts, Whole part) :
    ∀ t ∈ clause keyword separator parts, Whole t := by
  intro t ht
  cases parts with
  | nil => cases ht
  | cons part parts =>
    rw [List.mem_singleton.mp ht]
    exact hk.whole.append (hs.whole.intercalate h)

/-- A term of the order is whole if its expression is. -/
theorem SortTerm.whole_sql {t : SortTerm} (h : Whole t.expression) : Whole t.sql := by
  obtain ⟨expression, direction⟩ := t
  have direction : Unquoted direction.sql := by
    cases direction with
    | asc => decide
    | desc => decide
  exact (h.append (Unquoted.whole (by decide))).append direction.whole

namespace Statement

theorem whole_projection {s : Statement} (h : ∀ column ∈ s.columns, Whole column) :
    Whole s.projection := by
  rw [projection]
  split
  · exact Unquoted.whole (by decide)
  · exact Whole.intercalate (Unquoted.whole (by decide)) h

/-- The clauses behind the projection. -/
def laterClauses (s : Statement) : List String :=
  ["FROM " ++ s.table] ++ clause "WHERE" " AND " s.conditions ++ clause "GROUP BY" ", " s.groupBy ++
    clause "HAVING" " AND " s.groupConditions ++
    clause "ORDER BY" ", " (s.orderBy.map SortTerm.sql) ++ s.page.toList

/-- A text of a statement is its projection, between a keyword and the later clauses. -/
theorem text_eq (s : Statement) :
    s.text = String.join ["SELECT ", s.projection, "\n", "\n".intercalate s.laterClauses] := by
  rw [text, clauses, laterClauses]
  simp only [List.cons_append, List.nil_append, String.intercalate_cons_cons, String.join_cons,
    String.join_nil, String.append_empty, String.append_assoc]

/-- Of whole parts the later clauses are whole. -/
theorem whole_laterClauses {s : Statement} (h : ∀ part ∈ s.parts, Whole part) :
    ∀ t ∈ s.laterClauses, Whole t := by
  have among {xs : List String} (sub : ∀ x ∈ xs, x ∈ s.parts) : ∀ x ∈ xs, Whole x :=
    fun x hx => h x (sub x hx)
  have order : ∀ t ∈ s.orderBy.map SortTerm.sql, Whole t := by
    intro t ht
    obtain ⟨term, mem, rfl⟩ := List.mem_map.mp ht
    refine SortTerm.whole_sql (h term.expression ?_)
    simp only [parts, List.mem_append]
    exact .inl (.inr (List.mem_map_of_mem mem))
  intro t ht
  simp only [laterClauses, List.mem_append] at ht
  rcases ht with ((((ht | ht) | ht) | ht) | ht) | ht
  · rw [List.mem_singleton.mp ht]
    exact Whole.append (Unquoted.whole (by decide)) (h s.table (by simp [parts]))
  · exact whole_clause (by decide) (by decide) (among fun x hx => by simp [parts, hx]) t ht
  · exact whole_clause (by decide) (by decide) (among fun x hx => by simp [parts, hx]) t ht
  · exact whole_clause (by decide) (by decide) (among fun x hx => by simp [parts, hx]) t ht
  · exact whole_clause (by decide) (by decide) order t ht
  · refine h t ?_
    simp only [parts, List.mem_append]
    exact .inr ht

/-- A statement of whole parts is whole, and its projection stands in it. -/
theorem whole_text {s : Statement} (h : ∀ part ∈ s.parts, Whole part) :
    Whole s.text ∧ Stands s.projection s.text := by
  have projection : Whole s.projection :=
    whole_projection fun column hc => h column (by simp [parts, hc])
  have keyword : Unquoted "SELECT " := by decide
  have newline : Unquoted "\n" := by decide
  have each : ∀ t ∈ ["SELECT ", s.projection, "\n", "\n".intercalate s.laterClauses], Whole t := by
    simp only [List.forall_mem_cons]
    exact ⟨keyword.whole, projection, newline.whole,
      newline.whole.intercalate (whole_laterClauses h), fun _ ht => absurd ht List.not_mem_nil⟩
  rw [text_eq]
  exact ⟨whole_join each, stands_join each (by simp)⟩

end Statement

/-! ## Filters -/

/-- A placeholder holds no quote, whatever its name. -/
theorem whole_placeholder {name : String} (h : isName name.toList = true) (type : ColumnType) :
    Whole (placeholder name type) := by
  have formed := wellFormed_placeholder h type
  refine Unquoted.whole (List.any_eq_false.mpr ?_)
  intro c hc
  have := formed.unquoted c hc
  simp [isQuote, this.1, this.2]

namespace ColumnFilter

variable {c : ColumnFilter} {key symbol : String}

/-- Under a key that is a name, the conditions of the filter are whole. -/
def WritesWhole (c : ColumnFilter) : Prop :=
  ∀ f key cond, isName key.toList = true → c.apply f key = .ok (some cond) → Whole cond.text

/-- What stands for an operator holds no quote. -/
theorem unquoted_operatorTexts : ∀ symbol ∈ operatorTexts, Unquoted symbol := by decide

/-- A filter writes whole conditions if it writes them around every operator. -/
theorem writesWhole_of_written (own : c.isCustom = false)
    (h : ∀ f key symbol, isName key.toList = true → Unquoted symbol → Whole (c.written f key symbol)) :
    c.WritesWhole := by
  intro f key cond hk written
  obtain ⟨symbol, hs, _, rfl⟩ := (apply_eq_some own).mp written
  exact h f key symbol hk (unquoted_operatorTexts symbol (mem_operatorTexts hs))

/-- A comparison of a whole column with a placeholder. -/
theorem whole_compared {sql : String} (hq : Whole sql) (hs : Unquoted symbol)
    (hk : isName key.toList = true) (type : ColumnType) : Whole (compared sql symbol key type) := by
  have blank : Unquoted " " := by decide
  exact (((hq.append blank.whole).append hs.whole).append blank.whole).append
    (whole_placeholder hk type)

theorem writesWhole_string {sql : String} (h : Whole sql) : (string sql).WritesWhole :=
  writesWhole_of_written rfl fun _ _ _ hk hs => whole_compared h hs hk .string

theorem writesWhole_number {sql : String} (h : Whole sql) (type : NumericType) :
    (number sql type).WritesWhole :=
  writesWhole_of_written rfl fun _ _ _ hk hs => whole_compared h hs hk type.columnType

theorem writesWhole_array {sql : String} (h : Whole sql) (element : ColumnType) :
    (array sql element).WritesWhole := by
  refine writesWhole_of_written rfl ?_
  intro f key negation hk hn
  have front : Whole ("has(" ++ sql ++ ", ") :=
    Whole.append (Whole.append (Unquoted.whole (by decide)) h) (Unquoted.whole (by decide))
  have member := (front.append (whole_placeholder hk element)).append
    (Unquoted.whole (show Unquoted ")" by decide))
  exact hn.whole.append member

end ColumnFilter

/-- The conditions of filters that are kept are whole. -/
theorem whole_of_mem_kept {group : String} (hg : isName group.toList = true)
    {columns : Option ColumnFilters} {filters : List Filter}
    (whole : ∀ cs ∈ columns, cs.All ColumnFilter.WritesWhole) {c : Condition}
    (h : c ∈ kept (filterOutcomes group columns filters)) : Whole c.text := by
  rcases mem_filterOutcomes whole (mem_kept.mp h) with dropped | ⟨filter, whole, f, _, i, applied⟩
  · cases dropped
  · exact whole f _ c (isName_parameterKey hg f.column i) applied.symm

/-! ## Selects -/

/-- The condition of a window over a whole column is whole. -/
theorem TimeRange.whole_condition {range : TimeRange} (h : Whole range.column) :
    Whole range.condition.text := by
  obtain ⟨column, window⟩ := range
  have text {s : String} (hs : Unquoted s) : Whole s := hs.whole
  cases window with
  | between start stop =>
    have lower := (Whole.append h (text (show Unquoted " >= " by decide))).append
      (whole_placeholder (show isName "startTime".toList = true by decide) .string)
    have upper := ((lower.append (text (show Unquoted " AND " by decide))).append h).append
      (text (show Unquoted " <= " by decide))
    exact upper.append (whole_placeholder (show isName "endTime".toList = true by decide) .string)
  | pastHours hours =>
    have lower := (Whole.append h (text (show Unquoted " >= now() - INTERVAL " by decide))).append
      (whole_placeholder (show isName "pastHours".toList = true by decide) .int64)
    exact lower.append (text (show Unquoted " HOUR" by decide))

theorem Page.whole_clause (p : Page) : Whole p.clause.text := by
  have limit := Whole.append (Unquoted.whole (show Unquoted "LIMIT " by decide))
    (whole_placeholder (show isName "limit".toList = true by decide) .int64)
  have offset := limit.append (Unquoted.whole (show Unquoted " OFFSET " by decide))
  exact offset.append (whole_placeholder (show isName "offset".toList = true by decide) .int64)

namespace Select

variable {s : Select}

/-- A select of whole texts, with filters that write whole conditions. -/
structure Readable (s : Select) : Prop where
  /-- What is selected is whole, -/
  columns : ∀ t ∈ s.columns, Whole t
  /-- and so is where it is selected from. -/
  table : Whole s.table
  window : ∀ range ∈ s.timeRange, Whole range.column
  /-- The filters on rows write whole conditions, -/
  rows : ∀ cs ∈ s.columnFilters, cs.All ColumnFilter.WritesWhole
  /-- the fixed conditions are whole, -/
  conditions : ∀ c ∈ s.conditions, Whole c.text
  groupBy : ∀ t ∈ s.groupBy, Whole t
  /-- and the filters on groups write whole conditions. -/
  groups : ∀ cs ∈ s.groupColumnFilters, cs.All ColumnFilter.WritesWhole
  orderBy : ∀ t ∈ s.orderBy, Whole t.expression

/-- Every part of the statement of a readable select is whole. -/
theorem Readable.parts (h : s.Readable) : ∀ part ∈ s.statement.parts, Whole part := by
  intro part hp
  -- a text that was given, the condition of the window, or the clause of the page
  rcases mem_parts_statement.mp hp with hp | ⟨range, hr, rfl⟩ | ⟨page, _, rfl⟩
  · simp only [givenParts, List.mem_append, List.mem_map, List.mem_singleton] at hp
    rcases hp with (((((hp | rfl) | ⟨c, hc, rfl⟩) | ⟨c, hc, rfl⟩) | hp) | ⟨c, hc, rfl⟩) | ⟨t, ht, rfl⟩
    · exact h.columns part hp
    · exact h.table
    · exact whole_of_mem_kept (by decide) h.rows hc
    · exact h.conditions c hc
    · exact h.groupBy part hp
    · exact whole_of_mem_kept (by decide) h.groups hc
    · exact h.orderBy t ht
  · exact TimeRange.whole_condition (h.window range hr)
  · exact page.whole_clause

/-- The query of a select of whole texts is whole, and its projection stands in it. -/
theorem Readable.built (h : s.Readable) {q : Query} (built : s.build = .ok q) :
    Whole q.text ∧ Stands s.statement.projection q.text := by
  obtain ⟨_, _, checked⟩ := of_build_eq_ok built
  rw [Query.check_eq_ok checked]
  exact Statement.whole_text h.parts

end Select

end TraceQuery
