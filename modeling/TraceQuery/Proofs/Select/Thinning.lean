/-
  Selects without their dropped filters.

  1. **Names** (`Select.Restores`): the filters that are left stand at new positions, and so the names of
     their parameters differ.  The way back is a function of names (`Select.oldName`): a name tells its
     group and its position, and other names stay.
  2. **Taking out** (`Select.Apart.build_thinned`): without its dropped filters a select is built as well,
     and under the names of before the two queries are one.
  3. **Adding** (`Select.Apart.build_append_row`, `Select.Apart.build_append_group`): a filter that is kept
     adds its condition and its parameters at the end, and changes nothing else.

  `Select.build_without_dropped` has all of it, beside what dropped filters change where they stand.

  Mathlib-free.
-/
import TraceQuery.Proofs.Select.Apart
import TraceQuery.Proofs.Select.Dropping

namespace TraceQuery

open TraceQuery.Sql

namespace Select

variable {s : Select}

/-! ## Names -/

/-- The select without its dropped filters. -/
def thinned (s : Select) : Select :=
  s.withFilters (s.filters.filter fun f => !dropped s.columnFilters f)
    (s.groupFilters.filter fun f => !dropped s.groupColumnFilters f)

/-- A renaming that gives the parameters of the filters of the thinned select the names that they have in
    the select, and changes no names but those of filters. -/
structure Restores (s : Select) (ρ : String → String) : Prop where
  /-- The filters on rows get back their positions, -/
  rows : TraceQuery.Restores "filter" s.columnFilters s.filters ρ
  /-- and so do those on groups. -/
  groups : TraceQuery.Restores "having" s.groupColumnFilters s.groupFilters ρ
  /-- All other names stay. -/
  others : ∀ n, isFilterName n = false → ρ n = n

/-- The names under the keys of the thinned select, with those under the keys of the select. -/
def moves (s : Select) : List (String × String) :=
  TraceQuery.moves "filter" s.columnFilters s.filters ++
    TraceQuery.moves "having" s.groupColumnFilters s.groupFilters

/-- The name that a parameter of the thinned select has in the select. -/
def oldName (s : Select) (n : String) : String := (s.moves.lookup n).getD n

/-- No name moves to two places: those of rows and of groups begin with different letters. -/
theorem nodup_moves (s : Select) : (s.moves.map Prod.fst).Nodup := by
  rw [moves, List.map_append, List.nodup_append]
  refine ⟨TraceQuery.nodup_moves, TraceQuery.nodup_moves, ?_⟩
  intro m hm n hn same
  obtain ⟨_, _, row⟩ := namedUnder_of_moves hm
  obtain ⟨_, _, group⟩ := namedUnder_of_moves hn
  have first : n.toList.head? = some 'f' := same ▸ row.head? (show "filter".toList = 'f' :: _ from rfl)
  rw [group.head? (show "having".toList = 'h' :: _ from rfl)] at first
  exact absurd first (by decide)

/-- The renaming follows the moves. -/
theorem oldName_of_mem : ∀ e ∈ s.moves, s.oldName e.1 = e.2 := by
  intro e he
  obtain ⟨before, after, parts⟩ := List.append_of_mem he
  have found : s.moves.lookup e.1 = some e.2 := by
    rw [List.lookup_eq_some_iff]
    refine ⟨before, after, parts, ?_⟩
    have nodup := s.nodup_moves
    rw [parts, List.map_append, List.nodup_append] at nodup
    intro d hd
    simpa using Ne.symm (nodup.2.2 d.1 (List.mem_map_of_mem hd) e.1 List.mem_cons_self)
  rw [oldName, found]
  rfl

/-- The old names are a way back from the new ones. -/
theorem restores_oldName (s : Select) : s.Restores s.oldName := by
  refine ⟨restores_of_moves fun e he => oldName_of_mem e (List.mem_append_left _ he),
    restores_of_moves fun e he => oldName_of_mem e (List.mem_append_right _ he), ?_⟩
  intro n hn
  have absent : s.moves.lookup n = none := by
    rw [List.lookup_eq_none_iff]
    intro e he
    have own : isFilterName e.1 = true := by
      rcases List.mem_append.mp he with he | he
      · obtain ⟨_, _, row⟩ := namedUnder_of_moves (List.mem_map_of_mem he)
        exact row.isFilterName (.inl rfl)
      · obtain ⟨_, _, group⟩ := namedUnder_of_moves (List.mem_map_of_mem he)
        exact group.isFilterName (.inr rfl)
    simp only [bne_iff_ne, ne_eq]
    rintro rfl
    exact Bool.false_ne_true (hn.symm.trans own)
  rw [oldName, absent]
  rfl

namespace Apart

variable {q : Query} {ρ : String → String}

/-! ## Taking out -/

theorem withFilters (h : s.Apart) (rows groups : List Filter) : (s.withFilters rows groups).Apart :=
  ⟨h.rows, h.groups, h.balanced, h.refers, h.binds⟩

theorem thinned (h : s.Apart) : s.thinned.Apart := h.withFilters _ _

/-- A part of the statement that is not the condition of a filter refers to no name of a filter. -/
theorem isFilterName_of_part (h : s.Apart) {part n : String} (hp : part ∈ s.bare.statement.parts)
    (hn : n ∈ placeholderNames part) : isFilterName n = false := by
  refine h.isFilterName_of_bare_refers ((mem_placeholderNames_text h.balanced).mp ?_)
  exact (Statement.mem_placeholderNames_text (balanced_statement h.balanced)).mpr ⟨part, hp, hn⟩

/-- Conditions of filters get back the names of before. -/
theorem rename_rows (h : s.Apart) (back : s.Restores ρ) :
    (kept (filterOutcomes "filter" s.columnFilters s.thinned.filters)).map (Condition.rename ρ)
      = kept (filterOutcomes "filter" s.columnFilters s.filters) :=
  kept_rename (by decide) h.rows back.rows

theorem rename_groups (h : s.Apart) (back : s.Restores ρ) :
    (kept s.thinned.groupOutcomes).map (Condition.rename ρ) = kept s.groupOutcomes :=
  kept_rename (by decide) h.groups back.groups

/-- Texts that have nothing to do with filters stay. -/
theorem renamed_part (h : s.Apart) (back : s.Restores ρ) {part : String}
    (hp : part ∈ s.bare.statement.parts) : renamed ρ part = part :=
  renamed_eq_self fun _ hn => back.others _ (h.isFilterName_of_part hp hn)

/-- The statement of the thinned select is that of the select, but for the names. -/
theorem rename_statement (h : s.Apart) (back : s.Restores ρ) :
    s.thinned.statement.mapTexts (renamed ρ) = s.statement := by
  have others : s.bare.statement.mapTexts (renamed ρ) = s.bare.statement :=
    Statement.mapTexts_eq_self fun _ hp => h.renamed_part back hp
  have kept_bareRows : kept s.bare.rowOutcomes
      = s.timeRange.toList.map TimeRange.condition ++ s.conditions := by
    rw [kept_rowOutcomes, Select.bare, kept_bare, List.append_nil]
  -- of the conditions, those of filters are renamed and the others stay
  have filters {cs ds : List Condition} (same : cs.map (Condition.rename ρ) = ds) :
      (cs.map Condition.text).map (renamed ρ) = ds.map Condition.text := by
    rw [← same, List.map_map, List.map_map]
    rfl
  have stay {cs : List Condition} (sub : ∀ c ∈ cs, c ∈ kept s.bare.rowOutcomes) :
      (cs.map Condition.text).map (renamed ρ) = cs.map Condition.text := by
    refine (List.map_congr_left fun text ht => ?_).trans (List.map_id _)
    obtain ⟨c, hc, rfl⟩ := List.mem_map.mp ht
    have among : c.text ∈ s.bare.statement.conditions := List.mem_map_of_mem (sub c hc)
    exact h.renamed_part back (by simp [Statement.parts, among])
  have window := stay fun c (hc : c ∈ s.timeRange.toList.map TimeRange.condition) =>
    kept_bareRows ▸ List.mem_append_left _ hc
  have given := stay fun c (hc : c ∈ s.conditions) => kept_bareRows ▸ List.mem_append_right _ hc
  have rows : ((kept s.thinned.rowOutcomes).map Condition.text).map (renamed ρ)
      = (kept s.rowOutcomes).map Condition.text := by
    rw [kept_rowOutcomes, kept_rowOutcomes]
    simp only [List.map_append]
    exact congr (congrArg _ (congr (congrArg _ window) (filters (h.rename_rows back)))) given
  calc s.thinned.statement.mapTexts (renamed ρ)
      = { s.bare.statement.mapTexts (renamed ρ) with
          conditions := ((kept s.thinned.rowOutcomes).map Condition.text).map (renamed ρ)
          groupConditions := ((kept s.thinned.groupOutcomes).map Condition.text).map (renamed ρ) } := rfl
    _ = { s.bare.statement with
          conditions := (kept s.rowOutcomes).map Condition.text
          groupConditions := (kept s.groupOutcomes).map Condition.text } := by
        rw [others, rows, filters (h.rename_groups back)]
    _ = s.statement := rfl

/-- The bindings of the filters get back the names of before. -/
theorem rename_filterBindings (h : s.Apart) (back : s.Restores ρ) :
    renameBindings ρ s.thinned.filterBindings = s.filterBindings := by
  rw [filterBindings, ← flatMap_bindings_rename, filterConditions, List.map_append]
  have conditions := congr (congrArg List.append (h.rename_rows back)) (h.rename_groups back)
  exact congrArg (List.flatMap Condition.bindings) conditions

/-- Without its dropped filters a select is built as well, and under the names of before the two queries
    are one. -/
theorem build_thinned (h : s.Apart) (built : s.build = .ok q) :
    ∃ q', s.thinned.build = .ok q' ∧ ∀ ρ, s.Restores ρ → q'.rename ρ = q := by
  obtain ⟨accepted, q₀, built₀⟩ := h.exists_build_iff.mp ⟨q, built⟩
  obtain ⟨rows, groups⟩ := firstRefused_eq_none_iff.mp accepted
  have accepted' : s.thinned.firstRefused = none := firstRefused_eq_none_iff.mpr
    ⟨fun cs hcs f hf => rows cs hcs f (List.mem_filter.mp hf).1,
      fun cs hcs f hf => groups cs hcs f (List.mem_filter.mp hf).1⟩
  obtain ⟨q', built'⟩ := h.thinned.exists_build_iff.mpr ⟨accepted', q₀, built₀⟩
  refine ⟨q', built', fun ρ back => ?_⟩
  -- part by part, since the texts of both selects are balanced
  have text : renamed ρ q'.text = q.text := by
    rw [text_of_build built', Statement.renamed_text _ (balanced_statement h.thinned.balanced_parts),
      h.rename_statement back, text_of_build built]
  -- the parameters are those of the bare select, which stay, and those of the filters
  have parameters : q'.parameters.rename ρ = q.parameters := by
    refine Parameters.rename_eq_of_perm ?_
    have others : q₀.parameters.entries.map (fun b => (ρ b.1, b.2)) = q₀.parameters.entries := by
      refine (List.map_congr_left fun b hb => ?_).trans (List.map_id _)
      have bound : s.bare.Binds b.1 :=
        (mem_names_iff_binds (of_build_eq_ok built₀).2.1).mp (List.mem_map_of_mem hb)
      rw [back.others _ (h.isFilterName_of_bare_binds bound)]
      rfl
    have entries := (h.thinned.perm_entries built' built₀).map fun b => (ρ b.1, b.2)
    rw [List.map_append, others] at entries
    have filters : s.thinned.filterBindings.map (fun b => (ρ b.1, b.2)) = s.filterBindings :=
      h.rename_filterBindings back
    rw [filters] at entries
    exact entries.trans (h.perm_entries built built₀).symm
  rw [Query.rename, text, parameters]

/-! ## Adding -/

/-- With one more condition among those of its filters a select is built as well. -/
theorem build_added (h : s.Apart) (built : s.build = .ok q) {rows groups : List Filter} {c : Condition}
    (accepted : (s.withFilters rows groups).firstRefused = none)
    (added : (s.withFilters rows groups).filterConditions.Perm (s.filterConditions ++ [c])) :
    ∃ q', (s.withFilters rows groups).build = .ok q' ∧
      q'.text = (s.withFilters rows groups).statement.text ∧
      q'.parameters.entries.Perm (q.parameters.entries ++ c.bindings) := by
  obtain ⟨_, q₀, built₀⟩ := h.exists_build_iff.mp ⟨q, built⟩
  obtain ⟨q', built'⟩ := (h.withFilters rows groups).exists_build_iff.mpr ⟨accepted, q₀, built₀⟩
  have bindings : (s.withFilters rows groups).filterBindings.Perm (s.filterBindings ++ c.bindings) := by
    have := added.flatMap_right Condition.bindings
    rwa [List.flatMap_append, List.flatMap_singleton] at this
  refine ⟨q', built', text_of_build built', ?_⟩
  have whole := (h.withFilters rows groups).perm_entries built' built₀
  refine (whole.trans (bindings.append_left _)).trans ?_
  rw [← List.append_assoc]
  exact (h.perm_entries built built₀).symm.append_right _

/-- With a filter behind that is not refused none of the list is. -/
theorem refuses_append {columns : Option ColumnFilters} {cs : ColumnFilters} (hcs : columns = some cs)
    {fs : List Filter} (old : ∀ ds ∈ columns, ∀ g ∈ fs, ds.refuses g = false) {f : Filter}
    (new : cs.refuses f = false) : ∀ ds ∈ columns, ∀ g ∈ fs ++ [f], ds.refuses g = false := by
  intro ds hds g hg
  rcases List.mem_append.mp hg with hg | hg
  · exact old ds hds g hg
  · rw [hcs] at hds
    rw [← Option.some.inj hds, List.mem_singleton.mp hg, new]

/-- A filter on rows that is kept adds its condition behind those of the filters on rows. -/
theorem build_append_row (h : s.Apart) (built : s.build = .ok q) {cs : ColumnFilters}
    (hcs : s.columnFilters = some cs) {f : Filter} (accepted : cs.refuses f = false)
    (used : cs.drops f = false) :
    ∃ c before q', cs.build f (parameterKey "filter" f.column s.filters.length) = .ok (some c) ∧
      (s.withFilters (s.filters ++ [f]) s.groupFilters).build = .ok q' ∧
      s.statement.conditions = before ++ s.conditions.map Condition.text ∧
      q'.text = Statement.text
        { s.statement with conditions := before ++ c.text :: s.conditions.map Condition.text } ∧
      q'.parameters.entries.Perm (q.parameters.entries ++ c.bindings) := by
  obtain ⟨c, given⟩ := cs.exists_build (h.own_rows cs hcs) accepted used
    (parameterKey "filter" f.column s.filters.length)
  have more : kept (filterOutcomes "filter" s.columnFilters (s.filters ++ [f]))
      = kept (filterOutcomes "filter" s.columnFilters s.filters) ++ [c] := by
    rw [hcs]
    exact kept_append_filter given
  have conditions : (s.withFilters (s.filters ++ [f]) s.groupFilters).filterConditions.Perm
      (s.filterConditions ++ [c]) := by
    show (kept (filterOutcomes "filter" s.columnFilters (s.filters ++ [f])) ++ kept s.groupOutcomes).Perm _
    rw [more, filterConditions, List.append_assoc, List.append_assoc]
    exact (List.perm_append_comm).append_left _
  obtain ⟨rows, groups⟩ := firstRefused_eq_none_iff.mp (h.exists_build_iff.mp ⟨q, built⟩).1
  have accepted' : (s.withFilters (s.filters ++ [f]) s.groupFilters).firstRefused = none :=
    firstRefused_eq_none_iff.mpr ⟨refuses_append hcs rows accepted, groups⟩
  obtain ⟨q', built', text, entries⟩ := h.build_added built accepted' conditions
  -- the window and the filters stand in front of the new condition, the fixed conditions behind it
  let before := (s.timeRange.toList.map TimeRange.condition ++
    kept (filterOutcomes "filter" s.columnFilters s.filters)).map Condition.text
  have old : (kept s.rowOutcomes).map Condition.text = before ++ s.conditions.map Condition.text := by
    rw [kept_rowOutcomes, List.map_append]
  have new : (kept (s.withFilters (s.filters ++ [f]) s.groupFilters).rowOutcomes).map Condition.text
      = before ++ c.text :: s.conditions.map Condition.text := by
    rw [kept_rowOutcomes]
    show (s.timeRange.toList.map TimeRange.condition ++
      kept (filterOutcomes "filter" s.columnFilters (s.filters ++ [f])) ++ s.conditions).map _ = _
    rw [more, ← List.append_assoc, List.map_append, List.map_append, List.append_assoc]
    rfl
  refine ⟨c, before, q', given, built', old, ?_, entries⟩
  rw [text, Select.statement, new]
  rfl

/-- A filter on groups that is kept adds its condition behind those of the filters on groups. -/
theorem build_append_group (h : s.Apart) (built : s.build = .ok q) {cs : ColumnFilters}
    (hcs : s.groupColumnFilters = some cs) {f : Filter} (accepted : cs.refuses f = false)
    (used : cs.drops f = false) :
    ∃ c q', cs.build f (parameterKey "having" f.column s.groupFilters.length) = .ok (some c) ∧
      (s.withFilters s.filters (s.groupFilters ++ [f])).build = .ok q' ∧
      q'.text = Statement.text
        { s.statement with groupConditions := s.statement.groupConditions ++ [c.text] } ∧
      q'.parameters.entries.Perm (q.parameters.entries ++ c.bindings) := by
  obtain ⟨c, given⟩ := cs.exists_build (h.own_groups cs hcs) accepted used
    (parameterKey "having" f.column s.groupFilters.length)
  have more : kept (s.withFilters s.filters (s.groupFilters ++ [f])).groupOutcomes
      = kept s.groupOutcomes ++ [c] := by
    rw [groupOutcomes, groupOutcomes, hcs]
    show kept (filterOutcomes "having" s.groupColumnFilters (s.groupFilters ++ [f])) = _
    rw [hcs]
    exact kept_append_filter given
  have conditions : (s.withFilters s.filters (s.groupFilters ++ [f])).filterConditions.Perm
      (s.filterConditions ++ [c]) := by
    rw [filterConditions, more, filterConditions, List.append_assoc]
    exact List.Perm.refl _
  obtain ⟨rows, groups⟩ := firstRefused_eq_none_iff.mp (h.exists_build_iff.mp ⟨q, built⟩).1
  have accepted' : (s.withFilters s.filters (s.groupFilters ++ [f])).firstRefused = none :=
    firstRefused_eq_none_iff.mpr ⟨rows, refuses_append hcs groups accepted⟩
  obtain ⟨q', built', text, entries⟩ := h.build_added built accepted' conditions
  refine ⟨c, q', given, built', ?_, entries⟩
  rw [text, Select.statement, more, List.map_append]
  rfl

end Apart

/-- Dropped filters have no effect but on positions.  Without them the select is built as well, and its
    query is the one with them once the parameters of the filters have the positions of before.  Another
    dropped filter in the place of one, and dropped filters at the end, change nothing.  A filter at the
    end that is kept adds its condition behind those of its list, and its parameters. -/
theorem build_without_dropped (s : Select) (q : Query) (apart : s.Apart) (built : s.build = .ok q) :
    (∃ q', s.thinned.build = .ok q' ∧ s.Restores s.oldName ∧
      ∀ ρ, s.Restores ρ → q'.rename ρ = q) ∧
    ((∀ (i : Nat) (hi : i < s.filters.length) (f : Filter),
        dropped s.columnFilters s.filters[i] = true → dropped s.columnFilters f = true →
        (s.withFilters (s.filters.set i f) s.groupFilters).build = .ok q) ∧
      ∀ (i : Nat) (hi : i < s.groupFilters.length) (f : Filter),
        dropped s.groupColumnFilters s.groupFilters[i] = true → dropped s.groupColumnFilters f = true →
        (s.withFilters s.filters (s.groupFilters.set i f)).build = .ok q) ∧
    (∀ ds es : List Filter, (∀ d ∈ ds, dropped s.columnFilters d = true) →
      (∀ e ∈ es, dropped s.groupColumnFilters e = true) →
      (s.withFilters (s.filters ++ ds) (s.groupFilters ++ es)).build = .ok q) ∧
    q.text = s.statement.text ∧
    (∀ cs, s.columnFilters = some cs → ∀ f, cs.refuses f = false → cs.drops f = false →
      ∃ c before q', cs.build f (parameterKey "filter" f.column s.filters.length) = .ok (some c) ∧
        (s.withFilters (s.filters ++ [f]) s.groupFilters).build = .ok q' ∧
        s.statement.conditions = before ++ s.conditions.map Condition.text ∧
        q'.text = Statement.text
          { s.statement with conditions := before ++ c.text :: s.conditions.map Condition.text } ∧
        q'.parameters.entries.Perm (q.parameters.entries ++ c.bindings)) ∧
    ∀ cs, s.groupColumnFilters = some cs → ∀ f, cs.refuses f = false → cs.drops f = false →
      ∃ c q', cs.build f (parameterKey "having" f.column s.groupFilters.length) = .ok (some c) ∧
        (s.withFilters s.filters (s.groupFilters ++ [f])).build = .ok q' ∧
        q'.text = Statement.text
          { s.statement with groupConditions := s.statement.groupConditions ++ [c.text] } ∧
        q'.parameters.entries.Perm (q.parameters.entries ++ c.bindings) := by
  obtain ⟨q', built', back⟩ := apart.build_thinned built
  obtain ⟨inRows, inGroups⟩ := build_set_dropped apart.own_rows apart.own_groups
  refine ⟨⟨q', built', s.restores_oldName, back⟩, ⟨?_, ?_⟩, ?_, text_of_build built, ?_, ?_⟩
  · intro i hi f old new
    rw [inRows i hi f old new, built]
  · intro i hi f old new
    rw [inGroups i hi f old new, built]
  · intro ds es hds hes
    rw [build_append_dropped apart.own_rows apart.own_groups hds hes, built]
  · intro cs hcs f accepted used
    exact apart.build_append_row built hcs accepted used
  · intro cs hcs f accepted used
    exact apart.build_append_group built hcs accepted used

/-- Two filters on one column and one on a pair, each behind a filter that is dropped. -/
def withDrops : Select :=
  { plain ["name"] "spans" with
    filters :=
      [⟨"colour", .eq, .text "red"⟩, ⟨"name", .eq, .text "a"⟩,
        ⟨"duration", .gt, .text "long"⟩, ⟨"name", .neq, .text "b"⟩,
        ⟨"metadata", .eq, .text "none"⟩, ⟨"metadata", .eq, .text "k=v"⟩]
    columnFilters := some (.ofList
      [("name", .string "name"), ("duration", .number "duration" .float64),
        ("metadata", .keyValue "metadata")]) }

/-- Of six filters three are dropped; the others are bound at their positions among three, and renamed
    back. -/
theorem build_without_dropped_between : withDrops.thinned.filters.length = 3 ∧
    ∃ q q', withDrops.build = .ok q ∧ withDrops.thinned.build = .ok q' ∧
      q'.rename withDrops.oldName = q := by
  have apart : withDrops.Apart := by
    -- all texts that the select is given are plain, so it has nothing to do with names of filters
    have plainTexts : ∀ part ∈ withDrops.bare.parts, Plain part := by decide
    have metadata : placeholdersIn "metadata" = [] := placeholdersIn_of_braceless (by decide)
    refine ⟨?_, fun _ h => absurd h (by simp [withDrops, plain]), ?_, ?_, ?_⟩
    · intro cs hcs
      rw [← Option.some.inj hcs]
      refine ColumnFilters.all_ofList fun e he => ?_
      have plain : ∀ sql ∈ ["name", "duration", "metadata"], Plain sql := by decide
      simp only [List.mem_cons, List.not_mem_nil, or_false] at he
      rcases he with rfl | rfl | rfl
      · exact (plain "name" (by decide)).silent
      · exact (plain "duration" (by decide)).silent
      · exact ⟨(plain "metadata" (by decide)).silent, metadata⟩
    · exact fun part hp => (plainTexts part hp).balanced
    · intro part hp n hn
      exact absurd hn ((plainTexts part hp).silent.not_mem_placeholderNames n)
    · exact fun n hn => absurd hn List.not_mem_nil
  have accepted : withDrops.firstRefused = none := by decide
  have bare : withDrops.bare.build = .ok ⟨"SELECT name\nFROM spans", Parameters.empty⟩ := by cbv
  obtain ⟨q, built⟩ := apart.exists_build_iff.mpr ⟨accepted, _, bare⟩
  obtain ⟨⟨q', built', names, back⟩, _⟩ := build_without_dropped withDrops q apart built
  exact ⟨by decide, q, q', built, built', back _ names⟩

end Select

end TraceQuery
