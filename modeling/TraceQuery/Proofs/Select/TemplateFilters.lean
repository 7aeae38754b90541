/-
  Selects with filters that are written as templates.

  A filter from outside may be written with templates: its condition is a template bound to its key, and each
  value is bound to a name of the template under the key (`ColumnFilter.WrittenWith`).  Such filters may stand
  beside those of the library.

  1. **One filter** (`ColumnFilter.WrittenWith.mentions`): whatever it refers to or binds is its key or a name
     bound to its key.
  2. **Two filters** (`Select.WrittenWith.pairwise`): where no two of the names clash, two filters of a select
     have nothing in common.
  3. **Collisions** (`Select.WrittenWith.collision`): so a collision in such a select is one of its fixed
     conditions, or a single filter's own.

  Mathlib-free.
-/
import TraceQuery.Proofs.Query.TemplateNames
import TraceQuery.Proofs.Select.Collisions

namespace TraceQuery

open TraceQuery.Sql

/-! ## One filter -/

/-- The condition refers to a name or binds it. -/
def Condition.Mentions (c : Condition) (n : String) : Prop :=
  n ∈ placeholderNames c.text ∨ n ∈ c.bindings.map Prod.fst

/-- A filter of the library over a silent column, or one from outside that is written with templates: what
    its condition refers to and what its values are bound to are some names, bound to the filter's key. -/
def ColumnFilter.WrittenWith (names : List String) : ColumnFilter → Prop
  | custom condition values => ∀ f key,
      (∀ text, condition f key = .ok (some text) →
        ∃ t : Template, text = t.bindTo key ∧ ∀ n ∈ placeholderNames t.text, n ∈ names) ∧
      ∀ b ∈ values f key, ∃ n ∈ names, b.1 = boundName key n
  | keyValue sql => (keyValue sql).Silent ∧ ∀ n ∈ ["KEY", "VAL"], n ∈ names
  | c => c.Silent

namespace ColumnFilter.WrittenWith

variable {c : ColumnFilter} {names : List String} {f : Filter} {key : String} {cond : Condition}

/-- Without filters from outside the column is silent. -/
theorem silent (h : c.WrittenWith names) (own : c.isCustom = false) : c.Silent := by
  cases c with
  | custom condition values => cases own
  | keyValue sql => exact h.1
  | _ => exact h

/-- A filter of the library binds its key, or the two names of a pair. -/
theorem boundNames_mem (h : c.WrittenWith names) (own : c.isCustom = false) :
    ∀ n ∈ c.boundNames f key, n ∈ keyedNames key names := by
  have single : ∀ n ∈ [key], n ∈ keyedNames key names := fun n hn =>
    List.mem_cons.mpr (.inl (List.mem_singleton.mp hn))
  cases c with
  | status sql =>
    simp only [boundNames]
    split
    · exact fun n hn => absurd hn List.not_mem_nil
    · exact single
  | keyValue sql =>
    have bound {name : String} (hn : name ∈ ["KEY", "VAL"]) : boundName key name ∈ keyedNames key names :=
      List.mem_cons_of_mem _ (List.mem_map_of_mem (h.2 name hn))
    intro n hn
    rcases List.mem_cons.mp hn with rfl | hn
    · exact bound (by decide)
    · rw [List.mem_singleton.mp hn]
      exact bound (by decide)
  | custom condition values => cases own
  | _ => exact single

/-- What the condition of a filter mentions is its key, or a name bound to its key. -/
theorem mentions (h : c.WrittenWith names) (hk : isName key.toList = true)
    (applied : c.apply f key = .ok (some cond)) : ∀ n, cond.Mentions n → n ∈ keyedNames key names := by
  intro n mentioned
  -- one of the library agrees with what it binds; one from outside is a template that is bound to the key
  cases own : c.isCustom with
  | false =>
    obtain ⟨agrees, bound⟩ := ColumnFilter.agrees (h.silent own) hk applied
    have hn : n ∈ c.boundNames f key := by
      rw [← bound]
      exact mentioned.elim agrees.mem_iff.mp id
    exact h.boundNames_mem own n hn
  | true =>
    obtain ⟨condition, values, rfl⟩ : ∃ condition values, c = .custom condition values := by
      cases c with
      | custom condition values => exact ⟨condition, values, rfl⟩
      | _ => cases own
    obtain ⟨text?, written, outcome⟩ := bind_eq_ok applied
    obtain ⟨template, values⟩ := h f key
    cases text? with
    | none => cases outcome
    | some text =>
      cases outcome
      obtain ⟨t, rfl, named⟩ := template text written
      refine List.mem_cons_of_mem _ ?_
      rcases mentioned with referred | bound
      · rw [Template.bindTo, Template.placeholderNames_rename (keepsNames_boundName hk), mem_nameSet] at referred
        obtain ⟨name, hname, rfl⟩ := List.mem_map.mp referred
        exact List.mem_map_of_mem (named name hname)
      · obtain ⟨b, hb, rfl⟩ := List.mem_map.mp bound
        obtain ⟨name, hname, same⟩ := values b hb
        rw [same]
        exact List.mem_map_of_mem hname

end WrittenWith

/-- A filter made from a template is written with its names and those that its readings are bound to. -/
theorem writtenWith_toColumnFilter {t : TemplateFilter} {names : List String}
    (referred : ∀ n ∈ placeholderNames t.template.text, n ∈ names)
    (bound : ∀ n ∈ t.readings.map Prod.fst, n ∈ names) : t.toColumnFilter.WrittenWith names := by
  intro f key
  refine ⟨fun text written => ?_, fun b hb => ?_⟩
  · dsimp only at written
    split at written
    · cases written
    · split at written
      · cases written
      · exact ⟨t.template, (Option.some.inj (Except.ok.inj written)).symm, referred⟩
  · obtain ⟨⟨name, r⟩, mem, rfl⟩ := List.mem_map.mp hb
    exact ⟨name, bound name (List.mem_map_of_mem mem), rfl⟩

end ColumnFilter

/-! ## Two filters -/

/-- The condition of the outcome mentions a name. -/
def FilterOutcome.Mentions (o : FilterOutcome) (n : String) : Prop := ∃ c ∈ o.condition?, c.Mentions n

/-- The two outcomes mention no name in common. -/
def FilterOutcome.Apart (o o' : FilterOutcome) : Prop := ∀ n, o.Mentions n → ¬o'.Mentions n

/-- What is bound is mentioned. -/
theorem FilterOutcome.mentions_of_mem_names {o : FilterOutcome} {n : String} (h : n ∈ o.names) :
    o.Mentions n := by
  cases found : o.condition? with
  | none =>
    rw [names, found] at h
    cases h
  | some c =>
    rw [names, found] at h
    refine ⟨c, found, .inr ?_⟩
    rwa [Option.toList_some, namesOf_cons, namesOf_nil, List.append_nil] at h

section

variable {names : List String} {group n : String} {columns : Option ColumnFilters} {filters : List Filter}
  {o : FilterOutcome}

/-- Whatever it is made of, a name under a key is none of the others that the library binds. -/
theorem keyedNames_not_reserved (hg : group ∈ groups) (column : String) (i : Nat) (names : List String) :
    ∀ n ∈ keyedNames (parameterKey group column i) names, n ∉ reservedNames := by
  intro n hn reserved
  have heads := head?_of_reserved n reserved
  simp only [groups, List.mem_cons, List.not_mem_nil, or_false] at hg
  rcases hg with rfl | rfl
  · exact heads.1 (head?_keyedNames rfl n hn)
  · exact heads.2 (head?_keyedNames rfl n hn)

theorem isName_of_groups (hg : group ∈ groups) : isName group.toList = true :=
  (show ∀ g ∈ groups, isName g.toList = true by decide) group hg

/-- Whatever a filter mentions under a key lies under this key. -/
theorem build_mentions {cs : ColumnFilters} (all : cs.All (ColumnFilter.WrittenWith names)) {f : Filter}
    {key : String} (hk : isName key.toList = true) (h : FilterOutcome.Mentions (cs.build f key) n) :
    n ∈ keyedNames key names := by
  obtain ⟨cond, found, mentioned⟩ := h
  rcases all.build_cases f key with dropped | ⟨c, written, applied⟩
  · rw [dropped] at found
    cases found
  · rw [applied] at found
    cases outcome : c.apply f key with
    | error e =>
      rw [outcome] at found
      cases found
    | ok cond? =>
      rw [outcome] at found
      exact written.mentions hk (outcome.trans (congrArg Except.ok found)) n mentioned

/-- What a filter of a list mentions lies under the key of its own. -/
theorem mentions_of_mem (hg : group ∈ groups) (all : ∀ cs ∈ columns, cs.All (ColumnFilter.WrittenWith names))
    (ho : o ∈ filterOutcomes group columns filters) (h : o.Mentions n) :
    ∃ column i, n ∈ keyedNames (parameterKey group column i) names := by
  cases columns with
  | none => cases ho
  | some cs =>
    obtain ⟨i, _, rfl⟩ := List.mem_mapIdx.mp ho
    exact ⟨_, i, build_mentions (all cs rfl) (isName_parameterKey (isName_of_groups hg) _ i) h⟩

/-- Two filters of one list mention no name in common. -/
theorem pairwise_filterOutcomes (named : ∀ N ∈ names, isName N.toList = true)
    (free : ∀ N ∈ names, ∀ M ∈ names, ¬Clash N M) (hg : group ∈ groups)
    (all : ∀ cs ∈ columns, cs.All (ColumnFilter.WrittenWith names)) :
    (filterOutcomes group columns filters).Pairwise FilterOutcome.Apart := by
  cases columns with
  | none => exact List.Pairwise.nil
  | some cs =>
    have under {i : Nat} {f : Filter} {n : String} :=
      build_mentions (all cs rfl) (f := f) (n := n) (isName_parameterKey (isName_of_groups hg) f.column i)
    show (filters.mapIdx fun i f => cs.build f (parameterKey group f.column i)).Pairwise _
    rw [List.pairwise_iff_getElem]
    intro i j hi hj lt n first second
    rw [List.getElem_mapIdx] at first second
    have apart : (group, i) ≠ (group, j) := fun same => absurd (Prod.mk.inj same).2 (Nat.ne_of_lt lt)
    exact keyedNames_apart named free hg hg apart n (under first) (under second)

end

namespace Select

variable {s : Select} {names : List String} {n : String}

/-- All filters of the select are written with some names. -/
def WrittenWith (names : List String) (s : Select) : Prop :=
  (∀ cs ∈ s.columnFilters, cs.All (ColumnFilter.WrittenWith names)) ∧
    ∀ cs ∈ s.groupColumnFilters, cs.All (ColumnFilter.WrittenWith names)

namespace WrittenWith

/-- No two filters of a select mention a name in common. -/
theorem pairwise (h : s.WrittenWith names) (named : ∀ N ∈ names, isName N.toList = true)
    (free : ∀ N ∈ names, ∀ M ∈ names, ¬Clash N M) : s.filtering.Pairwise FilterOutcome.Apart := by
  have filter : "filter" ∈ groups := by decide
  have having : "having" ∈ groups := by decide
  refine List.pairwise_append.mpr ⟨pairwise_filterOutcomes named free filter h.1,
    pairwise_filterOutcomes named free having h.2, ?_⟩
  intro o ho o' ho' n first second
  obtain ⟨_, _, under⟩ := mentions_of_mem filter h.1 ho first
  obtain ⟨_, _, under'⟩ := mentions_of_mem having h.2 ho' second
  exact ne_of_groups filter having (by decide) n under under'

/-- No filter of a select mentions a name that is reserved. -/
theorem not_reserved (h : s.WrittenWith names) {o : FilterOutcome} (ho : o ∈ s.filtering)
    (mentioned : o.Mentions n) : n ∉ reservedNames := by
  rcases List.mem_append.mp ho with ho | ho
  · obtain ⟨column, i, under⟩ := mentions_of_mem (by decide) h.1 ho mentioned
    exact keyedNames_not_reserved (by decide) column i names n under
  · obtain ⟨column, i, under⟩ := mentions_of_mem (by decide) h.2 ho mentioned
    exact keyedNames_not_reserved (by decide) column i names n under

/-- A name that no fixed condition binds is bound by one step of the select at most. -/
theorem boundOnce (h : s.WrittenWith names) (named : ∀ N ∈ names, isName N.toList = true)
    (free : ∀ N ∈ names, ∀ M ∈ names, ¬Clash N M) (fixed : n ∉ namesOf s.conditions) :
    BoundOnce n s.steps := by
  have given : ∀ o ∈ s.conditions.map fun c => (.ok (some c) : FilterOutcome),
      n ∉ FilterOutcome.names o := by
    intro o ho hn
    obtain ⟨c, hc, rfl⟩ := List.mem_map.mp ho
    exact fixed (mem_namesOf_of_mem hc hn)
  refine .of_perm s.perm_steps ?_
  -- a reserved name is none of a filter's, any other one is none of the select's own
  by_cases reserved : n ∈ reservedNames
  · have filters : ∀ o ∈ s.filtering, n ∉ FilterOutcome.names o := fun o ho hn =>
      h.not_reserved ho (FilterOutcome.mentions_of_mem_names hn) reserved
    refine .append_silent (s.boundOnce_own n) fun o ho => ?_
    exact (List.mem_append.mp ho).elim (given o) (filters o)
  · have own : ∀ o ∈ s.ownOutcomes, n ∉ FilterOutcome.names o := fun o ho hn =>
      reserved (s.mem_reservedNames ho hn)
    have filters : BoundOnce n s.filtering := (h.pairwise named free).imp fun apart hn hn' =>
      apart n (FilterOutcome.mentions_of_mem_names hn) (FilterOutcome.mentions_of_mem_names hn')
    exact .silent_append own (.silent_append given filters)

/-- A collision is one of the fixed conditions, or a single filter's own. -/
theorem collision (h : s.WrittenWith names) (named : ∀ N ∈ names, isName N.toList = true)
    (free : ∀ N ∈ names, ∀ M ∈ names, ¬Clash N M) (failed : s.build = .error (.parameterCollision n)) :
    n ∈ namesOf s.conditions ∨ ∃ o ∈ s.filtering, o.Collides n := by
  by_cases fixed : n ∈ namesOf s.conditions
  · exact .inl fixed
  · obtain ⟨before, o, after, split, reason⟩ := collect_eq_collision (collect_steps failed)
    -- the step gave the name two values, or the name was bound in front of it
    rcases reason with alone | ⟨bound, earlier⟩
    · have step : o ∈ s.steps := by
        rw [split]
        simp
      rcases List.mem_append.mp (s.perm_steps.mem_iff.mp step) with own | step
      · exact absurd alone (not_collides_own own)
      · rcases List.mem_append.mp step with given | filter
        · obtain ⟨c, hc, rfl⟩ := List.mem_map.mp given
          rcases alone with reported | ⟨_, found, v, _, hv, _⟩
          · cases reported
          · cases Option.some.inj found
            refine absurd (mem_namesOf_of_mem hc ?_) fixed
            show n ∈ namesOf [c]
            rw [namesOf_cons]
            exact List.mem_append_left _ (List.mem_map_of_mem (f := Prod.fst) hv)
        · exact .inr ⟨o, filter, alone⟩
    · -- what binds the name before is another step that binds it
      have once := h.boundOnce named free fixed
      rw [split, BoundOnce, List.pairwise_append] at once
      rw [namesOf_kept] at earlier
      obtain ⟨o', ho', hn⟩ := List.mem_flatMap.mp (earlier.resolve_left List.not_mem_nil)
      exact absurd bound (once.2.2 o' ho' o List.mem_cons_self hn)

end WrittenWith

end Select

/-! ## All names of filters -/

/-- Which names of templates can be used for any filters beside each other.

    Two names are bound to different parameters under the keys of different filters, whatever their columns
    and positions are, exactly if they do not clash; what is bound under a key is none of the select's own
    names.  So in a select whose filters are written with names that do not clash no two filters mention one
    parameter, and a collision is one of the fixed conditions or a single filter's own. -/
theorem templateNames_apart :
    (∀ N M : String, isName N.toList = true → isName M.toList = true →
      ((∀ group ∈ groups, ∀ group' ∈ groups, ∀ column column' i j, (group, i) ≠ (group', j) →
          ∀ a ∈ keyedNames (parameterKey group column i) [N],
            a ∉ keyedNames (parameterKey group' column' j) [M]) ↔ ¬Clash N M)) ∧
    (∀ group ∈ groups, ∀ column i names, ∀ n ∈ keyedNames (parameterKey group column i) names,
      n ∉ reservedNames) ∧
    ∀ (s : Select) (names : List String), s.WrittenWith names →
      (∀ N ∈ names, isName N.toList = true) → (∀ N ∈ names, ∀ M ∈ names, ¬Clash N M) →
      s.filtering.Pairwise FilterOutcome.Apart ∧
      (∀ o ∈ s.filtering, ∀ n, o.Mentions n → n ∉ reservedNames) ∧
      ∀ n, s.build = .error (.parameterCollision n) →
        n ∈ namesOf s.conditions ∨ ∃ o ∈ s.filtering, o.Collides n := by
  refine ⟨fun N M => apart_iff_not_clash, fun group => keyedNames_not_reserved, ?_⟩
  intro s names written named free
  exact ⟨written.pairwise named free, fun _ ho _ mentioned => written.not_reserved ho mentioned,
    fun _ failed => written.collision named free failed⟩

/-- Two filters from outside, on a column `c` and on a column `c_0_a`; the template of the first has a name
    of any choice. -/
def twoTemplates (name : String) : Select :=
  let reads (template name : String) : ColumnFilter :=
    TemplateFilter.toColumnFilter ⟨⟨template⟩, [], [], [(name, .text)]⟩
  { Select.plain ["id"] "t" with
    filters := [⟨"c", .eq, .text "x"⟩, ⟨"c_0_a", .eq, .text "y"⟩]
    columnFilters := some (.ofList [
      ("c", reads ("a = \x7b" ++ name ++ ":String\x7d") name),
      ("c_0_a", reads "b = \x7bKEY:String\x7d" "KEY")]) }

/-- The two filters are written with the name and that of an inner key. -/
theorem writtenWith_twoTemplates {name : String}
    (referred : ∀ n ∈ placeholderNames ("a = \x7b" ++ name ++ ":String\x7d"), n ∈ [name, "KEY"]) :
    (twoTemplates name).WrittenWith [name, "KEY"] := by
  refine ⟨fun cs hcs => ?_, fun cs hcs => absurd hcs (by simp [twoTemplates, Select.plain])⟩
  obtain rfl := Option.some.inj hcs
  refine ColumnFilters.all_ofList fun e he => ?_
  rcases List.mem_cons.mp he with rfl | he
  · exact ColumnFilter.writtenWith_toColumnFilter referred fun n hn => List.mem_cons.mpr <| .inl <| by
      simpa using hn
  · obtain rfl := List.mem_singleton.mp he
    refine ColumnFilter.writtenWith_toColumnFilter (fun n hn => ?_) fun n hn => ?_
    · have names : placeholderNames "b = \x7bKEY:String\x7d" = ["KEY"] := by decide +kernel
      rw [names] at hn
      exact List.mem_cons_of_mem _ hn
    · exact List.mem_cons_of_mem _ hn

/-- A name without underscores can be used beside the name of a pair. -/
theorem templateNames_apart_plain :
    isName "LOW".toList = true ∧ isName "KEY".toList = true ∧ ¬Clash "LOW" "KEY" ∧
      (twoTemplates "LOW").WrittenWith ["LOW", "KEY"] ∧
      (twoTemplates "LOW").filtering.Pairwise FilterOutcome.Apart ∧
      ∀ n, (twoTemplates "LOW").build ≠ .error (.parameterCollision n) := by
  have named : ∀ N ∈ ["LOW", "KEY"], isName N.toList = true := by decide
  have plain : ∀ N ∈ ["LOW", "KEY"], '_' ∉ (Text.lowercase N).toList := by decide
  have free : ∀ N ∈ ["LOW", "KEY"], ∀ M ∈ ["LOW", "KEY"], ¬Clash N M := fun N hN M hM =>
    not_clash_of_plain (plain N hN) (plain M hM)
  have written : (twoTemplates "LOW").WrittenWith ["LOW", "KEY"] := by
    refine writtenWith_twoTemplates ?_
    have names : placeholderNames ("a = \x7b" ++ "LOW" ++ ":String\x7d") = ["LOW"] := by decide +kernel
    rw [names]
    decide
  obtain ⟨apart, _, alone⟩ := templateNames_apart.2.2 _ _ written named free
  refine ⟨named _ (by decide), named _ (by decide), free _ (by decide) _ (by decide), written, apart, ?_⟩
  intro n failed
  -- there are no fixed conditions, and each of the two filters binds a single value
  rcases alone n failed with fixed | ⟨o, ho, collides⟩
  · cases fixed
  · obtain ⟨text, text', both⟩ : ∃ text text', (twoTemplates "LOW").filtering =
        [.ok (some ⟨text, [(boundName (parameterKey "filter" "c" 0) "LOW", .string "x")]⟩),
          .ok (some ⟨text', [(boundName (parameterKey "filter" "c_0_a" 1) "KEY", .string "y")]⟩)] :=
      ⟨_, _, rfl⟩
    have single (text name value : String) :
        ¬FilterOutcome.Collides (.ok (some ⟨text, [(name, .string value)]⟩)) n :=
      not_collides_of_nodup (List.nodup_cons.mpr ⟨List.not_mem_nil, List.nodup_nil⟩) fun b hb => by
        rw [List.mem_singleton.mp hb]
        rfl
    rw [both] at ho
    rcases List.mem_cons.mp ho with rfl | ho
    · exact single _ _ _ collides
    · rw [List.mem_singleton.mp ho] at collides
      exact single _ _ _ collides

/-- A name with a number in it continues the key of the first filter into that of the second one, so both give
    their values to one parameter. -/
theorem templateNames_meet :
    isName "A_1".toList = true ∧
      boundName (parameterKey "filter" "c" 0) "A_1" = parameterKey "filter" "c_0_a" 1 ∧
      isName "A_1_KEY".toList = true ∧
      boundName (parameterKey "filter" "c" 0) "A_1_KEY"
        = boundName (parameterKey "filter" "c_0_a" 1) "KEY" ∧
      (twoTemplates "A_1_KEY").WrittenWith ["A_1_KEY", "KEY"] ∧
      (twoTemplates "A_1_KEY").build = .error (.parameterCollision "filter_c_0_a_1_key") := by
  refine ⟨by decide, by decide +kernel, by decide, by decide +kernel, ?_, ?_⟩
  · refine writtenWith_twoTemplates ?_
    have names : placeholderNames ("a = \x7b" ++ "A_1_KEY" ++ ":String\x7d") = ["A_1_KEY"] := by
      decide +kernel
    rw [names]
    decide
  · have failed : (match (twoTemplates "A_1_KEY").build with
        | .ok _ => none
        | .error e => some e) = some (.parameterCollision "filter_c_0_a_1_key") := by decide +kernel
    split at failed
    · cases failed
    · rename_i e build
      rw [build, Option.some.inj failed]

end TraceQuery
