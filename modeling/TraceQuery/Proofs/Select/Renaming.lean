/-
  Renaming the parameters of filters and of statements.

  1. **Filters** (`ColumnFilters.build_rename`): what a filter gives under one key is what it gives under
     another one, with its names changed.  The text holds them in its placeholders and the bindings beside
     its values; nothing else looks at the key.
  2. **Statements** (`Statement.renamed_text`): a statement of balanced parts is renamed part by part.
  3. **Queries** (`Query.rename`): the placeholders of the text and the names of the parameters change
     together.

  A renaming is a function on names.  Of one that carries a key over to another (`Carries`) it is asked
  only what it does to the three names that a filter may bind under the key; the texts around them are
  silent, so the function is asked for no other name.

  Mathlib-free.

-/
import TraceQuery.Proofs.Query.Parts
import TraceQuery.Proofs.Select.Agreeing
import TraceQuery.Proofs.Sql.Renaming

namespace TraceQuery

open TraceQuery.Sql

/-! ## Conditions -/

/-- Bindings under other names. -/
def renameBindings (ρ : String → String) (bindings : List Binding) : List Binding :=
  bindings.map fun b => (ρ b.1, b.2)

/-- A condition under other names. -/
def Condition.rename (ρ : String → String) (c : Condition) : Condition :=
  ⟨renamed ρ c.text, renameBindings ρ c.bindings⟩

/-- Conditions under other names bind the same values under these names. -/
theorem flatMap_bindings_rename (ρ : String → String) (cs : List Condition) :
    (cs.map (Condition.rename ρ)).flatMap Condition.bindings
      = renameBindings ρ (cs.flatMap Condition.bindings) := by
  rw [List.flatMap_map, renameBindings, List.map_flatMap]
  rfl

section

variable {ρ : String → String} {sql symbol key : String}

theorem Sql.Silent.renamed (h : Sql.Silent sql) (ρ : String → String) : Sql.renamed ρ sql = sql :=
  renamed_eq_self fun n hn => absurd hn (h.not_mem_placeholderNames n)

theorem renamed_placeholderFor (hk : isName key.toList = true) (type : ColumnType) (t : String) :
    renamed ρ (placeholder key type ++ t) = placeholder (ρ key) type ++ renamed ρ t :=
  renamed_placeholder ρ (wellFormed_placeholder hk type) t

theorem renamed_placeholder_alone (hk : isName key.toList = true) (type : ColumnType) :
    renamed ρ (placeholder key type) = placeholder (ρ key) type := by
  have : renamed ρ (placeholder key type ++ "") = _ := renamed_placeholderFor hk type ""
  rwa [renamed_empty, String.append_empty, String.append_empty] at this

/-- A comparison with the placeholder of a key is one with that of the new key. -/
theorem renamed_compared (hq : Sql.Silent sql) (hs : Plain symbol) (hk : isName key.toList = true)
    (type : ColumnType) :
    renamed ρ (ColumnFilter.compared sql symbol key type)
      = ColumnFilter.compared sql symbol (ρ key) type := by
  have whole := renamed_glued ρ hq.balanced (ColumnFilter.glue_symbol hs) (placeholder key type)
  rw [hq.renamed, renamed_placeholder_alone hk] at whole
  have grouped (a b c d e : String) : a ++ (b ++ c ++ d) ++ e = a ++ b ++ c ++ d ++ e := by
    simp only [String.append_assoc]
  rwa [grouped, grouped] at whole

theorem renamed_member {negation : String} (hq : Sql.Silent sql) (hs : Plain negation)
    (hk : isName key.toList = true) (element : ColumnType) :
    renamed ρ (negation ++ ("has(" ++ sql ++ ", " ++ placeholder key element ++ ")"))
      = negation ++ ("has(" ++ sql ++ ", " ++ placeholder (ρ key) element ++ ")") := by
  have front : Sql.Silent ("has(" ++ sql) := Reads.front (by decide) hq
  have close : renamed ρ (placeholder key element ++ ")") = placeholder (ρ key) element ++ ")" := by
    rw [renamed_placeholderFor hk, renamed_plain ρ (show Plain ")" by decide)]
  have member := renamed_glued ρ front.balanced (show Glue ", " by decide)
    (placeholder key element ++ ")")
  rw [front.renamed, close, ← String.append_assoc, ← String.append_assoc] at member
  rw [renamed_front ρ hs, member]

/-- The test of a key and its value becomes the one for the new names of both. -/
theorem renamed_keyValue (hq : Sql.Silent sql) (bareSql : placeholdersIn sql = []) (hs : Plain symbol)
    (bareSymbol : openBrace ∉ symbol.toList) (hk : isName key.toList = true) {key' : String}
    (first : ρ (boundName key "KEY") = boundName key' "KEY")
    (second : ρ (boundName key "VAL") = boundName key' "VAL") :
    renamed ρ ((keyValueTemplate sql symbol).bindTo key) = (keyValueTemplate sql symbol).bindTo key' := by
  have nameKey : isName (boundName key "KEY").toList = true :=
    keepsNames_boundName hk "KEY" (by decide)
  have nameValue : isName (boundName key "VAL").toList = true :=
    keepsNames_boundName hk "VAL" (by decide)
  have before : Sql.Silent ("JSONExtractString(" ++ sql) := Reads.front (by decide) hq
  have between : Plain (") " ++ symbol ++ " ") :=
    Plain.append (Plain.append (by decide) hs) (by decide)
  rw [bindTo_keyValueTemplate bareSql bareSymbol, bindTo_keyValueTemplate bareSql bareSymbol,
    renamed_glued ρ before.balanced (show Glue ", " by decide), before.renamed,
    renamed_placeholderFor nameKey, renamed_front ρ between, renamed_placeholder_alone nameValue, first,
    second]

end

/-! ## Filters -/

/-- A renaming that carries a key over to another one, with the names that are made of it. -/
structure Carries (ρ : String → String) (key key' : String) : Prop where
  /-- The key itself is carried over, -/
  alone : ρ key = key'
  /-- and so are the name of a filter's inner key -/
  first : ρ (boundName key "KEY") = boundName key' "KEY"
  /-- and that of its value. -/
  second : ρ (boundName key "VAL") = boundName key' "VAL"

namespace ColumnFilter

variable {c : ColumnFilter} {f : Filter} {key key' : String} {ρ : String → String}

/-- The names that a filter binds under the one key are carried over to those under the other. -/
theorem boundNames_rename (own : c.isCustom = false) (h : Carries ρ key key') (f : Filter) :
    (c.boundNames f key).map ρ = c.boundNames f key' := by
  have single : [key].map ρ = [key'] := by rw [List.map_singleton, h.alone]
  cases c with
  | status sql =>
    simp only [boundNames]
    split
    · rfl
    · exact single
  | keyValue sql =>
    show [ρ (boundName key "KEY"), ρ (boundName key "VAL")] = _
    rw [h.first, h.second]
    rfl
  | custom condition values => cases own
  | _ => exact single

/-- The text that a filter writes under the one key is carried over to that under the other. -/
theorem renamed_written {symbol : String} (silent : c.Silent) (hk : isName key.toList = true)
    (hs : symbol ∈ operatorTexts) (h : Carries ρ key key') :
    renamed ρ (c.written f key symbol) = c.written f key' symbol := by
  obtain ⟨plain, bare⟩ := plain_operatorTexts symbol hs
  have single {sql : String} (hq : Sql.Silent sql) (type : ColumnType) :
      renamed ρ (compared sql symbol key type) = compared sql symbol key' type := by
    rw [renamed_compared hq plain hk, h.alone]
  -- family by family; most write one comparison with the key
  cases c with
  | string sql => exact single silent .string
  | number sql type => exact single silent type.columnType
  | array sql element => exact h.alone ▸ renamed_member silent plain hk element
  | status sql =>
    simp only [written]
    cases f.value.statusAlias? with
    | some outcome => exact (silent_status silent _).renamed ρ
    | none => exact single silent .string
  | keyValue sql => exact renamed_keyValue silent.1 silent.2 plain bare hk h.first h.second
  | aggregate sql => exact single silent .float64
  | custom condition values => exact silent.elim

/-- The values of a filter are the same under every key. -/
theorem boundValues_rename (own : c.isCustom = false) (kept : c.keeps f.value = true)
    (h : Carries ρ key key') :
    renameBindings ρ (c.boundValues f key) = c.boundValues f key' := by
  have values : (c.boundValues f key).map Prod.snd = (c.boundValues f key').map Prod.snd := by
    cases c with
    | string sql => simp only [boundValues]; split <;> rfl
    | number sql type => simp [boundValues]
    | array sql element => simp [boundValues]
    | status sql => simp only [boundValues]; split <;> rfl
    | keyValue sql => simp only [boundValues]; split <;> rfl
    | aggregate sql => simp [boundValues]
    | custom condition values => cases own
  have names : (renameBindings ρ (c.boundValues f key)).map Prod.fst
      = (c.boundValues f key').map Prod.fst := by
    rw [boundValues_names kept, ← boundNames_rename own h, ← boundValues_names kept, renameBindings,
      List.map_map, List.map_map]
    rfl
  have values' : (renameBindings ρ (c.boundValues f key)).map Prod.snd
      = (c.boundValues f key').map Prod.snd := by
    rw [← values, renameBindings, List.map_map]
    rfl
  -- pairs are told by their two halves
  rw [← List.zip_unzip (renameBindings ρ (c.boundValues f key)), ← List.zip_unzip (c.boundValues f key'),
    List.unzip_eq_map, List.unzip_eq_map, names, values']

/-- A filter under another key gives the same, with its names changed. -/
theorem apply_rename (silent : c.Silent) (hk : isName key.toList = true) (h : Carries ρ key key')
    (f : Filter) :
    (FilterOutcome.condition? (c.apply f key)).map (Condition.rename ρ)
      = FilterOutcome.condition? (c.apply f key') := by
  rw [apply_eq silent.own, apply_eq silent.own]
  cases written : c.operatorText f with
  | error e => rfl
  | ok symbol =>
    cases kept : c.keeps f.value with
    | false => rfl
    | true =>
      show some (Condition.rename ρ _) = some _
      rw [Condition.rename, renamed_written silent hk (mem_operatorTexts written) h,
        boundValues_rename silent.own kept h]

end ColumnFilter

/-- A filter on any column gives the same under another key, with its names changed. -/
theorem ColumnFilters.build_rename {cs : ColumnFilters} (silent : cs.Silent) {key key' : String}
    (hk : isName key.toList = true) {ρ : String → String} (h : Carries ρ key key') (f : Filter) :
    (FilterOutcome.condition? (cs.build f key)).map (Condition.rename ρ)
      = FilterOutcome.condition? (cs.build f key') := by
  rw [build, build]
  cases found : cs.find? f.column with
  | none => rfl
  | some c => exact ColumnFilter.apply_rename (silent.find? found) hk h f

/-! ## Statements -/

namespace Statement

variable (ρ : String → String) {s : Statement}

/-- A statement with all its texts changed. -/
def mapTexts (change : String → String) (s : Statement) : Statement :=
  { columns := s.columns.map change
    table := change s.table
    conditions := s.conditions.map change
    groupBy := s.groupBy.map change
    groupConditions := s.groupConditions.map change
    orderBy := s.orderBy.map fun t => { t with expression := change t.expression }
    page := s.page.map change }

/-- A change that leaves the parts leaves the statement. -/
theorem mapTexts_eq_self {change : String → String} (h : ∀ part ∈ s.parts, change part = part) :
    s.mapTexts change = s := by
  have among {xs : List String} (sub : ∀ x ∈ xs, x ∈ s.parts) : xs.map change = xs :=
    (List.map_congr_left fun x hx => h x (sub x hx)).trans (List.map_id xs)
  have columns : s.columns.map change = s.columns := among fun x hx => by simp [parts, hx]
  have table : change s.table = s.table := h _ (by simp [parts])
  have conditions : s.conditions.map change = s.conditions := among fun x hx => by simp [parts, hx]
  have groupBy : s.groupBy.map change = s.groupBy := among fun x hx => by simp [parts, hx]
  have groupConditions : s.groupConditions.map change = s.groupConditions :=
    among fun x hx => by simp [parts, hx]
  have orderBy : s.orderBy.map (fun t => { t with expression := change t.expression }) = s.orderBy := by
    refine (List.map_congr_left fun t ht => ?_).trans (List.map_id _)
    rw [h t.expression (by simp only [parts, List.mem_append, List.mem_map_of_mem ht, true_or, or_true])]
    rfl
  have page : s.page.map change = s.page := by
    cases paged : s.page with
    | none => rfl
    | some p => exact congrArg some (h p (by simp [parts, paged]))
  rw [mapTexts, columns, table, conditions, groupBy, groupConditions, orderBy, page]

/-- A clause of balanced parts is renamed part by part. -/
theorem renamed_clause {keyword separator : String} (hk : Plain (keyword ++ " ")) (hs : Glue separator)
    {parts : List String} (h : ∀ part ∈ parts, Balanced part) :
    (clause keyword separator parts).map (renamed ρ)
      = clause keyword separator (parts.map (renamed ρ)) := by
  cases parts with
  | nil => rfl
  | cons part parts =>
    show [renamed ρ (keyword ++ " " ++ separator.intercalate (part :: parts))] = _
    rw [renamed_front ρ hk, renamed_intercalate ρ hs h]
    rfl

theorem renamed_projection (h : ∀ column ∈ s.columns, Balanced column) :
    renamed ρ s.projection = (s.mapTexts (renamed ρ)).projection := by
  rw [projection, projection]
  cases columns : s.columns with
  | nil =>
    rw [mapTexts, columns]
    exact renamed_plain ρ (by decide)
  | cons column rest =>
    rw [mapTexts, columns]
    show renamed ρ (", ".intercalate (column :: rest)) = _
    rw [renamed_intercalate ρ (by decide) (columns ▸ h)]
    rfl

theorem renamed_sortTerm {t : SortTerm} (h : Balanced t.expression) :
    renamed ρ t.sql = SortTerm.sql { t with expression := renamed ρ t.expression } := by
  rw [SortTerm.sql, String.append_assoc, renamed_back ρ h t.direction.plain_sql.1
    (closes_of_starts t.direction.plain_sql.2), SortTerm.sql, String.append_assoc]

/-- A statement of balanced parts is renamed part by part. -/
theorem renamed_text (h : ∀ part ∈ s.parts, Balanced part) :
    renamed ρ s.text = (s.mapTexts (renamed ρ)).text := by
  have among {xs : List String} (sub : ∀ x ∈ xs, x ∈ s.parts) : ∀ x ∈ xs, Balanced x :=
    fun x hx => h x (sub x hx)
  have comma : Glue ", " := by decide
  have conjunction : Glue " AND " := by decide
  -- clause by clause, in the order of the text
  have columns : renamed ρ ("SELECT " ++ s.projection)
      = "SELECT " ++ (s.mapTexts (renamed ρ)).projection := by
    rw [renamed_front ρ (by decide), renamed_projection ρ (among fun x hx => by simp [parts, hx])]
  have table : renamed ρ ("FROM " ++ s.table) = "FROM " ++ renamed ρ s.table :=
    renamed_front ρ (by decide) _
  have rows : (clause "WHERE" " AND " s.conditions).map (renamed ρ)
      = clause "WHERE" " AND " (s.conditions.map (renamed ρ)) :=
    renamed_clause ρ (by decide) conjunction (among fun x hx => by simp [parts, hx])
  have groups : (clause "GROUP BY" ", " s.groupBy).map (renamed ρ)
      = clause "GROUP BY" ", " (s.groupBy.map (renamed ρ)) :=
    renamed_clause ρ (by decide) comma (among fun x hx => by simp [parts, hx])
  have having : (clause "HAVING" " AND " s.groupConditions).map (renamed ρ)
      = clause "HAVING" " AND " (s.groupConditions.map (renamed ρ)) :=
    renamed_clause ρ (by decide) conjunction (among fun x hx => by simp [parts, hx])
  have terms : ∀ t ∈ s.orderBy, Balanced t.expression := by
    intro t ht
    refine h t.expression ?_
    simp only [parts, List.mem_append]
    exact .inl (.inr (List.mem_map_of_mem ht))
  have order : (clause "ORDER BY" ", " (s.orderBy.map SortTerm.sql)).map (renamed ρ)
      = clause "ORDER BY" ", " ((s.mapTexts (renamed ρ)).orderBy.map SortTerm.sql) := by
    have balanced : ∀ text ∈ s.orderBy.map SortTerm.sql, Balanced text := by
      intro text ht
      obtain ⟨t, mem, rfl⟩ := List.mem_map.mp ht
      exact (SortTerm.reads_sql (terms t mem)).balanced
    rw [renamed_clause ρ (by decide) comma balanced, mapTexts, List.map_map, List.map_map]
    exact congrArg _ (List.map_congr_left fun t ht => renamed_sortTerm ρ (terms t ht))
  have page : s.page.toList.map (renamed ρ) = (s.mapTexts (renamed ρ)).page.toList := by
    rw [mapTexts]
    cases s.page <;> rfl
  rw [text, renamed_intercalate ρ (by decide) (reads_clauses h).balanced, text, clauses, clauses]
  simp only [List.map_append, List.map_cons, List.map_nil, columns, table, rows, groups, having, order,
    page]
  rfl

end Statement

/-! ## Queries -/

/-- A query under other names: its placeholders outside quotes, and the names of its parameters. -/
def Query.rename (ρ : String → String) (q : Query) : Query :=
  ⟨renamed ρ q.text, q.parameters.rename ρ⟩

end TraceQuery
