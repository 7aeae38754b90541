/-
  What a SELECT statement refers to and what it binds.

  1. **Collecting** (`collect_of_ok`, `collect_of_firstError`): without errors among the outcomes, their
     conditions are kept in order and all their values are bound; with errors, and names that are
     new, the first error is the answer.
  2. **The text** (`Statement.reads_text`): a statement whose parts are balanced refers to what its
     parts refer to, in the order of the clauses.  Keywords and separators are plain and stand between
     any two texts.
  3. **The select** (`Select.build_of_balanced`): with the conditions of the window and of the page
     opened up, the references are those of the texts that the select was given and the names of its
     own; the check of the finished text compares them with the names bound.

  Mathlib-free.
-/
import TraceQuery.Select.Basic
import TraceQuery.Proofs.Query.Binding
import TraceQuery.Proofs.Filter.Agreement

namespace TraceQuery

open TraceQuery.Sql

/-! ## Collecting -/

/-- The condition of an outcome, if there is one. -/
def FilterOutcome.condition? : FilterOutcome → Option Condition
  | .ok c? => c?
  | .error _ => none

/-- The error of an outcome, if it is one. -/
def FilterOutcome.error? : FilterOutcome → Option QueryError
  | .ok _ => none
  | .error e => some e

/-- The first error among outcomes. -/
def firstError (outcomes : List FilterOutcome) : Option QueryError :=
  outcomes.findSome? FilterOutcome.error?

/-- The first error of two lists is that of the first, or else that of the second. -/
theorem firstError_append (xs ys : List FilterOutcome) :
    firstError (xs ++ ys) = (firstError xs).or (firstError ys) := List.findSome?_append

/-- There is no first error if there is none at all. -/
theorem firstError_eq_none_iff {outcomes : List FilterOutcome} :
    firstError outcomes = none ↔ ∀ e, .error e ∉ outcomes := by
  rw [firstError, List.findSome?_eq_none_iff]
  constructor
  · intro silent e he
    cases silent _ he
  · intro expressible o ho
    cases o with
    | error e => exact absurd ho (expressible e)
    | ok c? => rfl

/-- The first error is one of the errors. -/
theorem mem_of_firstError {outcomes : List FilterOutcome} {e : QueryError}
    (h : firstError outcomes = some e) : .error e ∈ outcomes := by
  obtain ⟨o, ho, he⟩ := List.exists_of_findSome?_eq_some h
  cases o with
  | error e' => exact Option.some.inj he ▸ ho
  | ok c? => cases he

/-- The conditions among outcomes. -/
def kept (outcomes : List FilterOutcome) : List Condition :=
  outcomes.filterMap FilterOutcome.condition?

/-- The names that conditions bind. -/
def namesOf (conditions : List Condition) : List String :=
  (conditions.flatMap Condition.bindings).map Prod.fst

@[simp] theorem namesOf_nil : namesOf [] = [] := rfl

theorem namesOf_cons (c : Condition) (cs : List Condition) :
    namesOf (c :: cs) = c.bindings.map Prod.fst ++ namesOf cs := by
  rw [namesOf, List.flatMap_cons, List.map_append, namesOf]

theorem namesOf_append (cs ds : List Condition) : namesOf (cs ++ ds) = namesOf cs ++ namesOf ds := by
  rw [namesOf, List.flatMap_append, List.map_append, namesOf, namesOf]

theorem kept_append (xs ys : List FilterOutcome) : kept (xs ++ ys) = kept xs ++ kept ys :=
  List.filterMap_append

/-- Conditions that are given are kept. -/
theorem kept_given (cs : List Condition) : kept (cs.map fun c => .ok (some c)) = cs := by
  induction cs with
  | nil => rfl
  | cons c cs ih => exact congrArg (c :: ·) ih

/-- Without errors the conditions are kept in order, and all that they bind is bound in this order. -/
theorem collect_of_ok {outcomes : List FilterOutcome} (h : ∀ e, .error e ∉ outcomes)
    (p : Parameters) :
    collect p outcomes
      = (p.bindAll ((kept outcomes).flatMap Condition.bindings)).map fun q =>
          ((kept outcomes).map Condition.text, q) := by
  induction outcomes generalizing p with
  | nil => rfl
  | cons o rest ih =>
    have ih := ih fun e he => h e (List.mem_cons_of_mem o he)
    cases o with
    | error e => exact absurd List.mem_cons_self (h e)
    | ok c? =>
      cases c? with
      | none => exact ih p
      -- the values of the first condition are bound before those of the rest, as the program does
      | some c =>
        have keeps : kept (.ok (some c) :: rest) = c :: kept rest := rfl
        rw [keeps, List.flatMap_cons, Parameters.bindAll_append]
        show (p.bindAll c.bindings).bind _ = _
        cases p.bindAll c.bindings with
        | error e => rfl
        | ok q =>
          show (collect q rest).bind _ = (q.bindAll _).map _
          rw [ih q]
          cases q.bindAll ((kept rest).flatMap Condition.bindings) with
          | error e => rfl
          | ok q' => rfl

/-- What has been collected holds no error. -/
theorem expressible_of_collect {outcomes : List FilterOutcome} {p : Parameters}
    {result : List String × Parameters} (h : collect p outcomes = .ok result) :
    ∀ e, .error e ∉ outcomes := by
  induction outcomes generalizing p result with
  | nil => exact fun _ => List.not_mem_nil
  | cons o rest ih =>
    intro e he
    cases o with
    | error e' => cases h
    | ok c? =>
      -- the error is behind a first outcome that was good
      have later : .error e ∈ rest := by
        rcases List.mem_cons.mp he with he | he
        · cases he
        · exact he
      cases c? with
      | none => exact ih h e later
      | some c =>
        obtain ⟨q, _, h⟩ := bind_eq_ok h
        obtain ⟨result', collected, _⟩ := bind_eq_ok h
        exact ih collected e later

/-- Where the names are new, each once, the first error is what stops the collecting. -/
theorem collect_of_firstError {outcomes : List FilterOutcome} {e : QueryError}
    (h : firstError outcomes = some e) {p : Parameters}
    (fresh : ∀ n ∈ namesOf (kept outcomes), n ∉ p.names) (nodup : (namesOf (kept outcomes)).Nodup) :
    collect p outcomes = .error e := by
  induction outcomes generalizing p with
  | nil => cases h
  | cons o rest ih =>
    cases o with
    | error e' => exact congrArg Except.error (Option.some.inj h)
    | ok c? =>
      cases c? with
      | none => exact ih h fresh nodup
      | some c =>
        have keeps : kept (.ok (some c) :: rest) = c :: kept rest := rfl
        rw [keeps, namesOf_cons] at fresh nodup
        obtain ⟨once, onceLater, apart⟩ := List.nodup_append.mp nodup
        obtain ⟨q, hq⟩ := Parameters.bindAll_of_fresh
          (fun n hn => fresh n (List.mem_append_left _ hn)) once
        -- what has been bound by now is in front, and apart from what is to come
        have fresh' : ∀ n ∈ namesOf (kept rest), n ∉ q.names := by
          intro n hn
          rw [Parameters.mem_names_of_bindAll hq, not_or]
          refine ⟨fresh n (List.mem_append_right _ hn), ?_⟩
          intro hc
          exact apart n hc n hn rfl
        show (p.bindAll c.bindings).bind _ = _
        rw [hq]
        show (collect q rest).bind _ = _
        rw [ih h fresh' onceLater]
        rfl

/-! ## The text -/

/-- Texts that are balanced, one by one, and all that they refer to. -/
structure ReadsEach (texts : List String) (refs : List Placeholder) : Prop where
  /-- None of them leaves a quote or a brace open. -/
  balanced : ∀ t ∈ texts, Balanced t
  /-- What they refer to, one text after the other. -/
  references : texts.flatMap references = refs

theorem ReadsEach.nil : ReadsEach [] [] := ⟨fun _ ht => absurd ht List.not_mem_nil, rfl⟩

/-- One text refers to what it is read with. -/
theorem ReadsEach.single {t : String} {refs : List Placeholder} (h : Reads t refs) :
    ReadsEach [t] refs := by
  refine ⟨?_, ?_⟩
  · intro u hu
    rw [List.mem_singleton.mp hu]
    exact h.balanced
  · rw [List.flatMap_cons, h.references, List.flatMap_nil, List.append_nil]

/-- The references of two lists of texts come one after the other. -/
theorem ReadsEach.append {xs ys : List String} {refs more : List Placeholder}
    (hx : ReadsEach xs refs) (hy : ReadsEach ys more) : ReadsEach (xs ++ ys) (refs ++ more) := by
  refine ⟨?_, ?_⟩
  · intro t ht
    rcases List.mem_append.mp ht with ht | ht
    · exact hx.balanced t ht
    · exact hy.balanced t ht
  · rw [List.flatMap_append, hx.references, hy.references]

/-- A clause refers to what its parts refer to. -/
theorem reads_clause {keyword separator : String} (hk : Plain (keyword ++ " ")) (hs : Glue separator)
    {parts : List String} (h : ∀ part ∈ parts, Balanced part) :
    ReadsEach (clause keyword separator parts) (parts.flatMap references) := by
  cases parts with
  | nil => exact ReadsEach.nil
  | cons part parts => exact ReadsEach.single (Reads.front hk (Reads.intercalate hs h))

/-- A direction with its blank is plain and can stand behind any text. -/
theorem Direction.plain_sql (d : Direction) :
    Plain (" " ++ d.sql) ∧ starts (" " ++ d.sql).toList = true := by
  cases d with
  | asc => decide
  | desc => decide

/-- A term of an order refers to what its expression refers to. -/
theorem SortTerm.reads_sql {t : SortTerm} (h : Balanced t.expression) :
    Reads t.sql (references t.expression) := by
  rw [SortTerm.sql, String.append_assoc]
  exact h.reads.back t.direction.plain_sql.1 (closes_of_starts t.direction.plain_sql.2)

namespace Statement

/-- The texts that a statement is put together from, in the order of its clauses. -/
def parts (s : Statement) : List String :=
  s.columns ++ [s.table] ++ s.conditions ++ s.groupBy ++ s.groupConditions ++
    s.orderBy.map SortTerm.expression ++ s.page.toList

/-- The projection refers to what the columns refer to; that of all columns refers to nothing. -/
theorem reads_projection {s : Statement} (h : ∀ column ∈ s.columns, Balanced column) :
    Reads s.projection (s.columns.flatMap references) := by
  rw [projection]
  by_cases empty : s.columns = []
  · rw [empty]
    exact Reads.plain (by decide)
  · rw [if_neg (by simpa using empty)]
    exact Reads.intercalate (by decide) h

/-- The clauses of a statement of balanced parts refer to what its parts refer to. -/
theorem reads_clauses {s : Statement} (h : ∀ part ∈ s.parts, Balanced part) :
    ReadsEach s.clauses (s.parts.flatMap references) := by
  have among {xs : List String} (sub : ∀ x ∈ xs, x ∈ s.parts) : ∀ x ∈ xs, Balanced x :=
    fun x hx => h x (sub x hx)
  have comma : Glue ", " := by decide
  have conjunction : Glue " AND " := by decide
  -- the seven clauses, in the order in which they stand in the text
  have columns : Reads ("SELECT " ++ s.projection) (s.columns.flatMap references) :=
    Reads.front (by decide) (reads_projection (among fun x hx => by simp [parts, hx]))
  have table : Reads ("FROM " ++ s.table) (references s.table) :=
    Reads.front (by decide) (h s.table (by simp [parts])).reads
  have rows : ReadsEach (clause "WHERE" " AND " s.conditions) (s.conditions.flatMap references) :=
    reads_clause (by decide) conjunction (among fun x hx => by simp [parts, hx])
  have groups : ReadsEach (clause "GROUP BY" ", " s.groupBy) (s.groupBy.flatMap references) :=
    reads_clause (by decide) comma (among fun x hx => by simp [parts, hx])
  have having : ReadsEach (clause "HAVING" " AND " s.groupConditions)
      (s.groupConditions.flatMap references) :=
    reads_clause (by decide) conjunction (among fun x hx => by simp [parts, hx])
  -- directions refer to nothing, so the terms refer to what their expressions refer to
  have terms : (∀ t ∈ s.orderBy.map SortTerm.sql, Balanced t) ∧
      (s.orderBy.map SortTerm.sql).flatMap references
        = (s.orderBy.map SortTerm.expression).flatMap references := by
    have each : ∀ t ∈ s.orderBy, Reads t.sql (references t.expression) := by
      intro t ht
      refine SortTerm.reads_sql (h t.expression ?_)
      simp only [parts, List.mem_append]
      exact .inl (.inr (List.mem_map_of_mem ht))
    refine ⟨?_, ?_⟩
    · intro t ht
      obtain ⟨term, mem, rfl⟩ := List.mem_map.mp ht
      exact (each term mem).balanced
    · rw [List.flatMap_map, List.flatMap_map, List.flatMap_def, List.flatMap_def,
        List.map_congr_left fun t ht => (each t ht).references]
  have order : ReadsEach (clause "ORDER BY" ", " (s.orderBy.map SortTerm.sql))
      ((s.orderBy.map SortTerm.expression).flatMap references) := by
    rw [← terms.2]
    exact reads_clause (by decide) comma terms.1
  have page : ReadsEach s.page.toList (s.page.toList.flatMap references) :=
    ⟨among fun x hx => by simp only [parts, List.mem_append]; exact .inr hx, rfl⟩
  have all := ((((((ReadsEach.single columns).append (ReadsEach.single table)).append rows).append
    groups).append having).append order).append page
  simp only [parts, List.flatMap_append, List.flatMap_cons, List.flatMap_nil, List.append_nil]
  exact all

/-- A statement of balanced parts refers to what its parts refer to. -/
theorem reads_text {s : Statement} (h : ∀ part ∈ s.parts, Balanced part) :
    Reads s.text (s.parts.flatMap references) := by
  have glued := Reads.intercalate (show Glue "\n" by decide) (reads_clauses h).balanced
  rw [(reads_clauses h).references] at glued
  exact glued

/-- A statement of balanced parts refers to a name if one of its parts does. -/
theorem mem_placeholderNames_text {s : Statement} (h : ∀ part ∈ s.parts, Balanced part) {n : String} :
    n ∈ placeholderNames s.text ↔ ∃ part ∈ s.parts, n ∈ placeholderNames part := by
  rw [mem_placeholderNames, (reads_text h).references, List.map_flatMap, List.mem_flatMap]
  simp only [mem_placeholderNames]

end Statement

/-! ## The select -/

/-- The names of the parameters of a window. -/
def TimeWindow.names : TimeWindow → List String
  | .between _ _ => ["startTime", "endTime"]
  | .pastHours _ => ["pastHours"]

/-- The condition of a window refers to its own names and to what the column refers to. -/
theorem TimeRange.reads_condition {range : TimeRange} (h : Balanced range.column) :
    Balanced range.condition.text ∧ ∀ n, n ∈ placeholderNames range.condition.text ↔
      n ∈ placeholderNames range.column ∨ n ∈ range.window.names := by
  obtain ⟨column, window⟩ := range
  cases window with
  | between start stop =>
    have lower := Reads.glued h.reads (show Glue " >= " by decide)
      (reads_placeholder (show isName "startTime".toList = true by decide) .string)
    have middle := Reads.glued lower (show Glue " AND " by decide) h.reads
    have upper := Reads.glued middle (show Glue " <= " by decide)
      (reads_placeholder (show isName "endTime".toList = true by decide) .string)
    refine ⟨upper.balanced, ?_⟩
    intro n
    show n ∈ placeholderNames (column ++ " >= " ++ placeholder "startTime" .string ++ " AND " ++
      column ++ " <= " ++ placeholder "endTime" .string) ↔ _
    rw [mem_placeholderNames, mem_placeholderNames, upper.references]
    simp only [List.map_append, List.mem_append, List.map_cons, List.map_nil, TimeWindow.names,
      List.mem_cons, List.not_mem_nil, or_false]
    grind
  | pastHours hours =>
    have lower := Reads.glued h.reads (show Glue " >= now() - INTERVAL " by decide)
      (reads_placeholder (show isName "pastHours".toList = true by decide) .int64)
    have whole := lower.back (show Plain " HOUR" by decide) (by decide)
    refine ⟨whole.balanced, ?_⟩
    intro n
    show n ∈ placeholderNames (column ++ " >= now() - INTERVAL " ++ placeholder "pastHours" .int64 ++
      " HOUR") ↔ _
    rw [mem_placeholderNames, mem_placeholderNames, whole.references, List.map_append,
      List.mem_append]
    rfl

/-- The names of the parameters of a page. -/
def Page.names : List String := ["limit", "offset"]

/-- The clause of a page refers to its own names. -/
theorem Page.reads_clause (p : Page) :
    Reads p.clause.text [⟨"limit", "Int64"⟩, ⟨"offset", "Int64"⟩] := by
  have first := Reads.front (show Plain "LIMIT " by decide)
    (reads_placeholder (show isName "limit".toList = true by decide) .int64)
  exact Reads.glued first (show Glue " OFFSET " by decide)
    (reads_placeholder (show isName "offset".toList = true by decide) .int64)

namespace Select

variable {s : Select} {params : Parameters} {n : String}

/-- The outcomes of the window, the filters and the fixed conditions. -/
def outcomes (s : Select) : List FilterOutcome := s.rowOutcomes ++ s.groupOutcomes

/-- What is bound, in the order in which it is bound. -/
def bindings (s : Select) : List Binding :=
  (kept s.outcomes ++ (s.page.map Page.clause).toList).flatMap Condition.bindings

/-- The statement of a select none of whose filters fails. -/
def statement (s : Select) : Statement :=
  { columns := s.columns
    table := s.table
    conditions := (kept s.rowOutcomes).map Condition.text
    groupBy := s.groupBy
    groupConditions := (kept s.groupOutcomes).map Condition.text
    orderBy := s.orderBy
    page := (s.page.map Page.clause).map Condition.text }

/-- Without errors the values are bound in the order of the clauses, and the statement is put together. -/
theorem assemble_of_ok (h : ∀ e, .error e ∉ s.outcomes) :
    s.assemble = (Parameters.empty.bindAll s.bindings).map fun q => (s.statement, q) := by
  have rows : ∀ e, .error e ∉ s.rowOutcomes := fun e he => h e (List.mem_append_left _ he)
  have groups : ∀ e, .error e ∉ s.groupOutcomes := fun e he => h e (List.mem_append_right _ he)
  rw [bindings, outcomes, kept_append, List.flatMap_append, List.flatMap_append,
    Parameters.bindAll_append, Parameters.bindAll_append]
  -- rows, groups and page, one after the other; the first that cannot be bound ends it
  show (collect Parameters.empty s.rowOutcomes).bind _ = _
  rw [collect_of_ok rows]
  cases Parameters.empty.bindAll ((kept s.rowOutcomes).flatMap Condition.bindings) with
  | error e => rfl
  | ok p =>
    show (collect p s.groupOutcomes).bind _ = Except.map _ ((p.bindAll _).bind _)
    rw [collect_of_ok groups]
    cases p.bindAll ((kept s.groupOutcomes).flatMap Condition.bindings) with
    | error e => rfl
    | ok q =>
      show (q.bindAll _).bind _ = Except.map _ (q.bindAll _)
      cases q.bindAll ((s.page.map Page.clause).toList.flatMap Condition.bindings) with
      | error e => rfl
      | ok r => rfl

/-- A select that is built had no error, and its query is the check of its statement. -/
theorem of_build_eq_ok {q : Query} (h : s.build = .ok q) :
    (∀ e, .error e ∉ s.outcomes) ∧ Parameters.empty.bindAll s.bindings = .ok q.parameters ∧
      Query.check s.statement.text q.parameters = .ok q := by
  obtain ⟨⟨statement, params⟩, assembled, checked⟩ := bind_eq_ok h
  -- had an outcome been an error, collecting the rows or the groups would have failed
  have expressible : ∀ e, .error e ∉ s.outcomes := by
    obtain ⟨⟨_, p⟩, rows, rest⟩ := bind_eq_ok assembled
    obtain ⟨_, groups, _⟩ := bind_eq_ok rest
    intro e he
    rcases List.mem_append.mp he with he | he
    · exact expressible_of_collect rows e he
    · exact expressible_of_collect groups e he
  rw [assemble_of_ok expressible] at assembled
  cases bound : Parameters.empty.bindAll s.bindings with
  | error e =>
    rw [bound] at assembled
    cases assembled
  | ok params' =>
    rw [bound] at assembled
    obtain ⟨rfl, rfl⟩ := Prod.mk.inj (Except.ok.inj assembled)
    have same := Query.check_eq_ok checked
    subst same
    exact ⟨expressible, rfl, checked⟩

/-- The text of a query that is built is that of the statement. -/
theorem text_of_build {q : Query} (h : s.build = .ok q) : q.text = s.statement.text :=
  congrArg Query.text (Query.check_eq_ok (of_build_eq_ok h).2.2)

/-- Where the names are apart from one another, a select gives its first error. -/
theorem build_of_firstError {e : QueryError} (h : firstError s.outcomes = some e)
    (nodup : (s.bindings.map Prod.fst).Nodup) : s.build = .error e := by
  have split : (namesOf (kept s.rowOutcomes) ++ namesOf (kept s.groupOutcomes)).Nodup := by
    rw [← namesOf_append, ← kept_append]
    have whole : (namesOf (kept s.outcomes ++ (s.page.map Page.clause).toList)).Nodup := nodup
    rw [namesOf_append] at whole
    exact (List.nodup_append.mp whole).1
  obtain ⟨rows, groups, apart⟩ := List.nodup_append.mp split
  rw [outcomes, firstError_append] at h
  -- groups are collected only if no row filter has failed
  cases inRows : firstError s.rowOutcomes with
  | some e' =>
    rw [inRows] at h
    have stops := collect_of_firstError inRows (p := Parameters.empty) (by simp) rows
    rw [build, assemble, stops, Option.some.inj h]
    rfl
  | none =>
    rw [inRows] at h
    obtain ⟨p, hp⟩ : ∃ p, Parameters.empty.bindAll ((kept s.rowOutcomes).flatMap Condition.bindings)
        = .ok p := Parameters.bindAll_of_fresh (by simp) rows
    have fresh : ∀ n ∈ namesOf (kept s.groupOutcomes), n ∉ p.names := by
      intro n hn
      rw [Parameters.mem_names_of_bindAll hp, not_or]
      refine ⟨List.not_mem_nil, ?_⟩
      intro hr
      exact apart n hr n hn rfl
    have stops := collect_of_firstError h fresh groups
    rw [build, assemble, collect_of_ok (firstError_eq_none_iff.mp inRows), hp]
    show ((collect p s.groupOutcomes).bind _).bind _ = _
    rw [stops]
    rfl

/-! ### References and bindings -/

/-- The texts that a select is put together from without adding to them: those it is given, and the
    conditions of the filters that are kept. -/
def givenParts (s : Select) : List String :=
  s.columns ++ [s.table] ++
    (kept (filterOutcomes "filter" s.columnFilters s.filters)).map Condition.text ++
    s.conditions.map Condition.text ++ s.groupBy ++
    (kept s.groupOutcomes).map Condition.text ++ s.orderBy.map SortTerm.expression

/-- All texts that a select is put together from: these, and the column of its window. -/
def parts (s : Select) : List String := s.timeRange.toList.map TimeRange.column ++ s.givenParts

/-- The names that a select refers to on its own account: those of its window and of its page. -/
def ownNames (s : Select) : List String :=
  s.timeRange.toList.flatMap (fun range => range.window.names) ++
    s.page.toList.flatMap fun _ => Page.names

/-- Tells whether one of the texts refers to a name, or the select itself does. -/
def Refers (s : Select) (n : String) : Prop :=
  (∃ part ∈ s.parts, n ∈ placeholderNames part) ∨ n ∈ s.ownNames

/-- Tells whether a name is bound. -/
def Binds (s : Select) (n : String) : Prop := n ∈ s.bindings.map Prod.fst

/-- What is kept in front of the groups: the window, the filters on rows and the fixed conditions. -/
theorem kept_rowOutcomes (s : Select) :
    kept s.rowOutcomes = s.timeRange.toList.map TimeRange.condition ++
      kept (filterOutcomes "filter" s.columnFilters s.filters) ++ s.conditions := by
  have window : (s.timeRange.toList.map fun range => (.ok (some range.condition) : FilterOutcome))
      = (s.timeRange.toList.map TimeRange.condition).map fun c => .ok (some c) := by
    rw [List.map_map]
    rfl
  rw [rowOutcomes, kept_append, kept_append, kept_given, window, kept_given]

/-- A part of the finished statement is one that the select is given, or the condition of its window,
    or the clause of its page. -/
theorem mem_parts_statement {part : String} :
    part ∈ s.statement.parts ↔ part ∈ s.givenParts ∨
      (∃ range ∈ s.timeRange, part = range.condition.text) ∨
      ∃ page ∈ s.page, part = page.clause.text := by
  have window : part ∈ List.map Condition.text (s.timeRange.toList.map TimeRange.condition) ↔
      ∃ range ∈ s.timeRange, part = range.condition.text := by
    cases s.timeRange <;> simp
  have clause : part ∈ ((s.page.map Page.clause).map Condition.text).toList ↔
      ∃ page ∈ s.page, part = page.clause.text := by
    cases s.page <;> simp
  simp only [Statement.parts, statement, givenParts, kept_rowOutcomes, List.map_append,
    List.mem_append]
  rw [window, clause]
  grind

/-- If all texts of a select are balanced, so are the parts of its statement. -/
theorem balanced_statement (h : ∀ part ∈ s.parts, Balanced part) :
    ∀ part ∈ s.statement.parts, Balanced part := by
  intro part hp
  -- a text that was given, the condition of the window, or the clause of the page
  rcases mem_parts_statement.mp hp with hp | ⟨range, hr, rfl⟩ | ⟨page, hp, rfl⟩
  · exact h part (List.mem_append_right _ hp)
  · have column : range.column ∈ s.parts := by
      refine List.mem_append_left _ (List.mem_map_of_mem ?_)
      rw [Option.mem_toList]
      exact hr
    exact (TimeRange.reads_condition (h _ column)).1
  · exact page.reads_clause.balanced

/-- The finished text refers to what the select refers to. -/
theorem mem_placeholderNames_text (h : ∀ part ∈ s.parts, Balanced part) :
    n ∈ placeholderNames s.statement.text ↔ s.Refers n := by
  have window (range : TimeRange) (hr : range ∈ s.timeRange) : Balanced range.column := by
    refine h _ (List.mem_append_left _ (List.mem_map_of_mem ?_))
    rw [Option.mem_toList]
    exact hr
  have clause (page : Page) : n ∈ placeholderNames page.clause.text ↔ n ∈ Page.names := by
    rw [mem_placeholderNames, page.reads_clause.references]
    rfl
  rw [Statement.mem_placeholderNames_text (balanced_statement h), Refers]
  constructor
  · rintro ⟨part, hp, hn⟩
    rcases mem_parts_statement.mp hp with hp | ⟨range, hr, rfl⟩ | ⟨page, hpage, rfl⟩
    · exact .inl ⟨part, List.mem_append_right _ hp, hn⟩
    · rcases ((TimeRange.reads_condition (window range hr)).2 n).mp hn with hn | hn
      · exact .inl ⟨range.column, List.mem_append_left _ (List.mem_map_of_mem (by simpa using hr)), hn⟩
      · exact .inr (List.mem_append_left _ (List.mem_flatMap.mpr ⟨range, by simpa using hr, hn⟩))
    · have hn := (clause page).mp hn
      exact .inr (List.mem_append_right _ (List.mem_flatMap.mpr ⟨page, by simpa using hpage, hn⟩))
  · rintro (⟨part, hp, hn⟩ | hn)
    · rcases List.mem_append.mp hp with hp | hp
      · obtain ⟨range, hr, rfl⟩ := List.mem_map.mp hp
        have hr : range ∈ s.timeRange := by simpa using hr
        exact ⟨range.condition.text, mem_parts_statement.mpr (.inr (.inl ⟨range, hr, rfl⟩)),
          ((TimeRange.reads_condition (window range hr)).2 n).mpr (.inl hn)⟩
      · exact ⟨part, mem_parts_statement.mpr (.inl hp), hn⟩
    · rcases List.mem_append.mp hn with hn | hn
      · obtain ⟨range, hr, hn⟩ := List.mem_flatMap.mp hn
        have hr : range ∈ s.timeRange := by simpa using hr
        exact ⟨range.condition.text, mem_parts_statement.mpr (.inr (.inl ⟨range, hr, rfl⟩)),
          ((TimeRange.reads_condition (window range hr)).2 n).mpr (.inr hn)⟩
      · obtain ⟨page, hp, hn⟩ := List.mem_flatMap.mp hn
        have hp : page ∈ s.page := by simpa using hp
        exact ⟨page.clause.text, mem_parts_statement.mpr (.inr (.inr ⟨page, hp, rfl⟩)),
          (clause page).mpr hn⟩

/-- The bound parameters have the names that the select binds. -/
theorem mem_names_iff_binds (h : Parameters.empty.bindAll s.bindings = .ok params) :
    n ∈ params.names ↔ s.Binds n := by
  rw [Parameters.mem_names_of_bindAll h, Parameters.names_empty, Binds]
  simp

/-- Where no filter fails and nothing collides, the answer is that of the check. -/
theorem build_of_ok (h : ∀ e, .error e ∉ s.outcomes)
    (bound : Parameters.empty.bindAll s.bindings = .ok params) :
    s.build = Query.check s.statement.text params := by
  rw [build, assemble_of_ok h, bound]
  rfl

/-- A select of balanced parts whose filters do not fail and whose bindings do not collide: what the
    finished text refers to, and what is answered.  The answer depends on two sets of names only, the
    one referred to and the one bound. -/
theorem build_of_balanced (s : Select) (params : Parameters)
    (balanced : ∀ part ∈ s.parts, Balanced part) (expressible : ∀ e, .error e ∉ s.outcomes)
    (bound : Parameters.empty.bindAll s.bindings = .ok params) :
    ∃ statement, s.assemble = .ok (statement, params) ∧
      (∀ n, n ∈ placeholderNames statement.text ↔ s.Refers n) ∧
      (∀ n, n ∈ params.names ↔ s.Binds n) ∧
      ((∃ q, s.build = .ok q) ↔ ∀ n, s.Refers n ↔ s.Binds n) ∧
      (∀ q, s.build = .ok q → q = ⟨statement.text, params⟩) ∧
      ((∃ m, s.Refers m ∧ ¬s.Binds m) →
        ∃ n, IsLeastName (fun m => s.Refers m ∧ ¬s.Binds m) n ∧
          s.build = .error (.unboundPlaceholder n)) ∧
      ((∀ m, s.Refers m → s.Binds m) → (∃ m, s.Binds m ∧ ¬s.Refers m) →
        ∃ n, IsLeastName (fun m => s.Binds m ∧ ¬s.Refers m) n ∧
          s.build = .error (.unusedParameter n)) := by
  have refers (n : String) : n ∈ placeholderNames s.statement.text ↔ s.Refers n :=
    mem_placeholderNames_text balanced
  have binds (n : String) : n ∈ params.names ↔ s.Binds n := mem_names_iff_binds bound
  have built := build_of_ok expressible bound
  refine ⟨s.statement, ?_, refers, binds, ?_, ?_, ?_, ?_⟩
  · rw [assemble_of_ok expressible, bound]
    rfl
  · simp only [built, Query.check_eq_ok_iff, refers, binds]
    exact ⟨fun ⟨_, _, same⟩ => same, fun same => ⟨_, rfl, same⟩⟩
  · intro q hq
    rw [built] at hq
    exact (Query.check_eq_ok_iff.mp hq).1
  · intro unbound
    simp only [← refers, ← binds, built] at unbound ⊢
    exact Query.check_unbound unbound
  · intro allBound unused
    simp only [← refers, ← binds, built] at allBound unused ⊢
    exact Query.check_unused allBound unused

/-- Braces inside quotes are no placeholder: the query refers to its page only. -/
theorem build_of_quotedBraces :
    ∃ q, Select.build { Select.plain ["'\x7bx:String\x7d'"] "t" with page := some ⟨10, 0⟩ }
      = .ok q := by
  have plain : ∀ part ∈ ["'\x7bx:String\x7d'", "t"], Plain part := by decide
  obtain ⟨params, bound⟩ : ∃ params, Parameters.empty.bindAll
      [("limit", boundCount 10), ("offset", boundCount 0)] = .ok params :=
    Parameters.bindAll_of_fresh (by simp) (by decide)
  obtain ⟨_, _, _, _, answer, _⟩ := build_of_balanced
    { Select.plain ["'\x7bx:String\x7d'"] "t" with page := some ⟨10, 0⟩ } params
    (fun part hp => (plain part hp).balanced) (fun _ => List.not_mem_nil) bound
  refine answer.mpr ?_
  intro n
  constructor
  · rintro (⟨part, hp, hn⟩ | hn)
    · rw [mem_placeholderNames, (Reads.plain (plain part hp)).references] at hn
      cases hn
    · exact hn
  · exact .inr

end Select

end TraceQuery
