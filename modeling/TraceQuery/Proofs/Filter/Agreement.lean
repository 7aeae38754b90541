/-
  What the filters of the library have in common.

  A column's filter makes its condition and its values in two halves that look at the filter's value
  apart from one another.  The two agree (`ColumnFilter.agrees`): over a column that is silent, the
  condition of a filter that is kept is balanced and has a placeholder for each name that is bound
  (`ColumnFilter.placeholders`), in the order of the bindings.

  Silent means SQL that refers to nothing.  The condition on a key of a JSON text is made from a
  template, whose renaming does not see quotes; what it renames inside quotes stays there
  (`reads_keyValue`), but only a column without any placeholder stands in the condition as it is
  (`bindTo_keyValueTemplate`), and that is what a silent filter asks for.  The columns that are written
  down in the program are clean, that is of plain SQL, which can be decided.

  Mathlib-free.
-/
import TraceQuery.Proofs.Filter.Writing
import TraceQuery.Proofs.Sql.Templates

namespace TraceQuery

open TraceQuery.Sql

/-- A condition that is balanced and refers to the names that it binds, in their order. -/
def Condition.Agrees (c : Condition) : Prop :=
  ∃ refs, Reads c.text refs ∧ refs.map Placeholder.name = c.bindings.map Prod.fst

/-! ## The template of a key -/

/-- A text without an opening brace in front adds no placeholder. -/
theorem placeholdersIn_front {s : String} (h : openBrace ∉ s.toList) (t : String) :
    placeholdersIn (s ++ t) = placeholdersIn t := by
  rw [placeholdersIn, String.toList_append, pieces_front h, List.filterMap_append, filterMap_others]
  rfl

/-- A text without an opening brace has no placeholder at all. -/
theorem placeholdersIn_of_braceless {s : String} (h : openBrace ∉ s.toList) :
    placeholdersIn s = [] := by
  have := placeholdersIn_front h ""
  rw [String.append_empty] at this
  rw [this, placeholdersIn]
  show (pieces []).filterMap _ = []
  rw [pieces_nil]
  rfl

/-- The template of a key, bound to a key of parameters; the column is bound by itself. -/
theorem bindTo_keyValueParts (sql : String) {symbol : String} (hs : openBrace ∉ symbol.toList)
    (key : String) :
    (keyValueTemplate sql symbol).bindTo key
      = ("JSONExtractString(" ++ Template.bindTo ⟨sql⟩ key ++ ", ") ++
          (placeholder (boundName key "KEY") .string ++
            ((") " ++ symbol ++ " ") ++ placeholder (boundName key "VAL") .string)) := by
  have grouped {a b c d e p q : String} (hb : b = c ++ (p ++ d)) {w : String} (hw : w = e ++ q) :
      a ++ sql ++ b ++ symbol ++ w = (a ++ (sql ++ c)) ++ (p ++ ((d ++ symbol ++ e) ++ q)) := by
    rw [hb, hw]
    simp only [String.append_assoc]
  -- the two placeholders of the template, taken out of its fixed texts
  have keyPart : ", \x7bKEY:String\x7d) " = ", " ++ (Placeholder.text ⟨"KEY", "String"⟩ ++ ") ") := by
    rfl
  have valuePart : " \x7bVAL:String\x7d" = " " ++ (Placeholder.text ⟨"VAL", "String"⟩ ++ "") := by rfl
  have first : Placeholder.WellFormed ⟨"KEY", "String"⟩ := wellFormed_placeholder (by decide) .string
  have second : Placeholder.WellFormed ⟨"VAL", "String"⟩ := wellFormed_placeholder (by decide) .string
  -- a placeholder opens anew, so it closes none in front of it
  have seam (p : Placeholder) (t : String) : closes (p.text ++ t).toList = false := by
    refine closes_of_starts ?_
    rw [String.toList_append, Placeholder.toList_text]
    rfl
  have comma : placeholdersIn ", " = [] := placeholdersIn_of_braceless (by decide)
  have middle : openBrace ∉ (") " ++ symbol ++ " ").toList := by
    simp only [String.toList_append, List.mem_append, not_or]
    exact ⟨⟨by decide, hs⟩, by decide⟩
  unfold keyValueTemplate
  rw [Template.bindTo, grouped keyPart valuePart, Template.rename_append _ (seam _ _),
    Template.rename_braceless _ (by decide), Template.rename_append _ (by decide), Template.rename_bare _ comma,
    Template.rename_placeholder _ first, Template.rename_braceless _ middle,
    Template.rename_placeholder _ second, Template.rename_empty, String.append_empty, Template.bindTo]
  simp only [String.append_assoc]
  rfl

/-- A column without placeholders stands in the condition as it is. -/
theorem bindTo_keyValueTemplate {sql symbol : String} (hq : placeholdersIn sql = [])
    (hs : openBrace ∉ symbol.toList) (key : String) :
    (keyValueTemplate sql symbol).bindTo key
      = ("JSONExtractString(" ++ sql ++ ", ") ++ (placeholder (boundName key "KEY") .string ++
          ((") " ++ symbol ++ " ") ++ placeholder (boundName key "VAL") .string)) := by
  rw [bindTo_keyValueParts sql hs, Template.bindTo, Template.rename_bare _ hq]

/-! ## Agreement -/

namespace ColumnFilter

variable {c : ColumnFilter} {f : Filter} {key : String}

/-- A filter over a column that refers to nothing. -/
def Silent : ColumnFilter → Prop
  | string sql => Sql.Silent sql
  | number sql _ => Sql.Silent sql
  | array sql _ => Sql.Silent sql
  | status sql => Sql.Silent sql
  | keyValue sql => Sql.Silent sql ∧ placeholdersIn sql = []
  | aggregate sql => Sql.Silent sql
  -- what is given from outside may refer to anything
  | custom _ _ => False

/-- A silent filter is one of the library's families. -/
theorem Silent.own (h : c.Silent) : c.isCustom = false := by
  cases c with
  | custom condition values => exact h.elim
  | _ => rfl

/-- A filter over a column of plain SQL. -/
def Clean : ColumnFilter → Prop
  | string sql => Plain sql
  | number sql _ => Plain sql
  | array sql _ => Plain sql
  | status sql => Plain sql
  | keyValue sql => Plain sql ∧ openBrace ∉ sql.toList
  | aggregate sql => Plain sql
  | custom _ _ => False

/-- Cleanness is a check of the column's text, family by family. -/
instance : DecidablePred Clean
  | string sql => inferInstanceAs (Decidable (Plain sql))
  | number sql _ => inferInstanceAs (Decidable (Plain sql))
  | array sql _ => inferInstanceAs (Decidable (Plain sql))
  | status sql => inferInstanceAs (Decidable (Plain sql))
  | keyValue sql => inferInstanceAs (Decidable (Plain sql ∧ openBrace ∉ sql.toList))
  | aggregate sql => inferInstanceAs (Decidable (Plain sql))
  | custom _ _ => inferInstanceAs (Decidable False)

/-- A clean column is a silent one. -/
theorem Clean.silent (h : c.Clean) : c.Silent := by
  cases c with
  | keyValue sql => exact ⟨h.1.silent, placeholdersIn_of_braceless h.2⟩
  | custom condition values => exact h.elim
  | string sql => exact Plain.silent h
  | number sql type => exact Plain.silent h
  | array sql element => exact Plain.silent h
  | status sql => exact Plain.silent h
  | aggregate sql => exact Plain.silent h

/-- What stands for an operator is plain, also to a reader that does not see quotes. -/
theorem plain_operatorTexts : ∀ symbol ∈ operatorTexts, Plain symbol ∧ openBrace ∉ symbol.toList := by
  decide

/-- A symbol between blanks holds together what stands on its two sides. -/
theorem glue_symbol {symbol : String} (hs : Plain symbol) : Glue (" " ++ symbol ++ " ") := by
  refine ⟨Plain.append (Plain.append (by decide) hs) (by decide), ?_, ?_⟩
  · simp only [String.toList_append]
    rfl
  · simp

/-- A comparison of a silent column with a placeholder. -/
theorem reads_compared {sql symbol : String} (hq : Sql.Silent sql) (hs : Plain symbol)
    (hk : isName key.toList = true) (type : ColumnType) :
    Reads (compared sql symbol key type) [⟨key, type.text⟩] := by
  have whole := Reads.glued hq (glue_symbol hs) (reads_placeholder hk type)
  have grouped (a b c d e : String) : a ++ (b ++ c ++ d) ++ e = a ++ b ++ c ++ d ++ e := by
    simp only [String.append_assoc]
  rwa [grouped] at whole

/-- A membership, which may be negated. -/
theorem reads_member {sql negation : String} (hq : Sql.Silent sql) (hs : Plain negation)
    (hk : isName key.toList = true) (element : ColumnType) :
    Reads (negation ++ ("has(" ++ sql ++ ", " ++ placeholder key element ++ ")"))
      [⟨key, element.text⟩] := by
  -- the column stands behind an opening parenthesis, which no placeholder begins with
  have front : Sql.Silent ("has(" ++ sql) := Reads.front (by decide) hq
  have member := Reads.glued front (show Glue ", " by decide) (reads_placeholder hk element)
  exact Reads.front hs (member.back (show Plain ")" by decide) (by decide))

/-- A status compared with the one outcome that a status column tells. -/
theorem silent_status {sql : String} (hq : Sql.Silent sql) (asked : Bool) :
    Sql.Silent (sql ++ (if asked then " = " else " != ") ++ "'error'") := by
  have outcome : Sql.Silent "'error'" := Plain.silent (by decide)
  -- the outcome is written out, so nothing is bound for it
  cases asked with
  | true => exact Reads.glued hq (show Glue " = " by decide) outcome
  | false => exact Reads.glued hq (show Glue " != " by decide) outcome

/-- A comparison of the value under a key of a JSON text: what the column holds inside quotes is renamed
    with the template and stays inside. -/
theorem reads_keyValue {sql symbol : String} (hq : Sql.Silent sql) (hs : Plain symbol)
    (hk : isName key.toList = true) :
    Reads ((keyValueTemplate sql symbol).bindTo key)
      [⟨boundName key "KEY", ColumnType.string.text⟩,
        ⟨boundName key "VAL", ColumnType.string.text⟩] := by
  have grouped {a b c d e p q : String} (hb : b = c ++ (p ++ d)) {w : String} (hw : w = e ++ q) :
      a ++ sql ++ b ++ symbol ++ w = (a ++ sql) ++ c ++ (p ++ ((d ++ symbol ++ e) ++ q)) := by
    rw [hb, hw]
    simp only [String.append_assoc]
  have keyPart : ", \x7bKEY:String\x7d) " = ", " ++ (placeholder "KEY" .string ++ ") ") := by rfl
  have valuePart : " \x7bVAL:String\x7d" = " " ++ placeholder "VAL" .string := by rfl
  have before : Sql.Silent ("JSONExtractString(" ++ sql) := Reads.front (by decide) hq
  have between : Plain (") " ++ symbol ++ " ") :=
    Plain.append (Plain.append (by decide) hs) (by decide)
  have parted : (keyValueTemplate sql symbol).text = ("JSONExtractString(" ++ sql) ++ ", " ++
      (placeholder "KEY" .string ++ ((") " ++ symbol ++ " ") ++ placeholder "VAL" .string)) :=
    grouped keyPart valuePart
  -- before it is renamed, the template refers to its two own names and the column to none
  have template : Reads (keyValueTemplate sql symbol).text
      [⟨"KEY", ColumnType.string.text⟩, ⟨"VAL", ColumnType.string.text⟩] := by
    rw [parted]
    exact Reads.glued before (show Glue ", " by decide)
      (Reads.placeholder (by decide) .string
        (Reads.front between (reads_placeholder (by decide) .string)))
  exact Template.reads_rename (keepsNames_boundName hk) template

/-- The placeholders of the condition of a filter that is kept. -/
def placeholders : ColumnFilter → Filter → String → List Placeholder
  | string _, _, key => [⟨key, ColumnType.string.text⟩]
  | number _ type, _, key => [⟨key, type.columnType.text⟩]
  | array _ element, _, key => [⟨key, element.text⟩]
  | status _, f, key =>
    match f.value.statusAlias? with
    | some _ => []
    | none => [⟨key, ColumnType.string.text⟩]
  | keyValue _, _, key =>
    [⟨boundName key "KEY", ColumnType.string.text⟩, ⟨boundName key "VAL", ColumnType.string.text⟩]
  | aggregate _, _, key => [⟨key, ColumnType.float64.text⟩]
  | custom _ _, _, _ => []

/-- A filter has a placeholder for each name that it binds. -/
theorem names_placeholders (own : c.isCustom = false) (f : Filter) (key : String) :
    (c.placeholders f key).map Placeholder.name = c.boundNames f key := by
  cases c with
  | status sql =>
    simp only [placeholders, boundNames]
    cases f.value.statusAlias? with
    | some outcome => rfl
    | none => rfl
  | custom condition values => cases own
  | _ => rfl

/-- The column of a filter, if it has one of its own. -/
def column? : ColumnFilter → Option String
  | string sql => some sql
  | number sql _ => some sql
  | array sql _ => some sql
  | status sql => some sql
  | keyValue sql => some sql
  | aggregate sql => some sql
  | custom _ _ => none

/-- A filter with a column of its own is one of the library's families. -/
theorem own_of_column? {sql : String} (columnSql : c.column? = some sql) : c.isCustom = false := by
  cases c with
  | custom condition values => cases columnSql
  | _ => rfl

/-- A silent filter has a column, and this is silent. -/
theorem Silent.column (h : c.Silent) : ∃ sql, c.column? = some sql ∧ Sql.Silent sql := by
  cases c with
  | keyValue sql => exact ⟨sql, rfl, h.1⟩
  | custom condition values => exact h.elim
  | string sql => exact ⟨sql, rfl, h⟩
  | number sql type => exact ⟨sql, rfl, h⟩
  | array sql element => exact ⟨sql, rfl, h⟩
  | status sql => exact ⟨sql, rfl, h⟩
  | aggregate sql => exact ⟨sql, rfl, h⟩

/-- The condition of a filter over a column that refers to nothing refers to the filter's placeholders. -/
theorem reads_written {sql symbol : String} (columnSql : c.column? = some sql) (silent : Sql.Silent sql)
    (hk : isName key.toList = true) (hs : symbol ∈ operatorTexts) (f : Filter) :
    Reads (c.written f key symbol) (c.placeholders f key) := by
  have plain := (plain_operatorTexts symbol hs).1
  -- one case for each family: its text is one of the four forms above
  cases c with
  | custom condition values => cases columnSql
  | string column =>
    cases columnSql
    exact reads_compared silent plain hk .string
  | number column type =>
    cases columnSql
    exact reads_compared silent plain hk type.columnType
  | array column element =>
    cases columnSql
    exact reads_member silent plain hk element
  | status column =>
    cases columnSql
    simp only [written, placeholders]
    cases f.value.statusAlias? with
    | some outcome => exact silent_status silent _
    | none => exact reads_compared silent plain hk .string
  | keyValue column =>
    cases columnSql
    exact reads_keyValue silent plain hk
  | aggregate column =>
    cases columnSql
    exact reads_compared silent plain hk .float64

/-- A filter over a silent column that is kept gives a condition that agrees with its values. -/
theorem agrees {cond : Condition} (silent : c.Silent) (hk : isName key.toList = true)
    (h : c.apply f key = .ok (some cond)) :
    cond.Agrees ∧ cond.bindings.map Prod.fst = c.boundNames f key := by
  obtain ⟨symbol, hs, kept, rfl⟩ := (apply_eq_some silent.own).mp h
  obtain ⟨sql, columnSql, column⟩ := silent.column
  have names := boundValues_names kept key
  have reads := reads_written columnSql column hk (mem_operatorTexts hs) f
  exact ⟨⟨_, reads, (names_placeholders silent.own f key).trans names.symm⟩, names⟩

end ColumnFilter

end TraceQuery
