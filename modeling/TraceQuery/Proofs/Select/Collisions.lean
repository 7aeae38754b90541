/-
  Why a name is given a second value.

  1. **Binding** (`collides_of_bindAll`): the values of a condition cannot be bound if the condition gives two
     values to one name (`FilterOutcome.Collides`), or one to a name that has been bound before.
  2. **Collecting** (`collect_eq_collision`): so among outcomes a collision is the first error of one of them,
     or a second value of one, or a name that two of them bind.
  3. **Selects** (`Select.collect_steps`): a collision in a select is one of its steps, which are its window,
     its filters, its fixed conditions and its page.  The window and the page bind reserved names, each once
     (`Select.boundOnce_own`, `Select.not_collides_own`).

  Two values are compared as the program compares them (`ParamValue.same`), so a value that is not a number
  differs from itself.  This is why a condition that binds each name once can still be the reason of a
  collision, and why `not_collides_of_nodup` asks for values that are definite.

  Mathlib-free.

-/
import TraceQuery.Proofs.Query.Extending
import TraceQuery.Proofs.Select.Agreeing

namespace TraceQuery

open TraceQuery.Sql

/-! ## Collisions -/

/-- A filter by itself is the reason of a collision: it reports one, or gives a name two values. -/
def FilterOutcome.Collides (o : FilterOutcome) (n : String) : Prop :=
  o = .error (.parameterCollision n) ∨ ∃ c ∈ o.condition?, ∃ v w : ParamValue,
    (n, v) ∈ c.bindings ∧ (n, w) ∈ c.bindings ∧ v.same w = false

/-- A condition that binds each name once, and none to what is not a number, is no reason of a collision. -/
theorem not_collides_of_nodup {c : Condition} {n : String} (once : (c.bindings.map Prod.fst).Nodup)
    (definite : Definite c.bindings) : ¬FilterOutcome.Collides (.ok (some c)) n := by
  rintro (reported | ⟨_, found, v, w, hv, hw, differs⟩)
  · cases reported
  · cases Option.some.inj found
    obtain ⟨i, hi, first⟩ := List.mem_iff_getElem.mp hv
    obtain ⟨j, hj, second⟩ := List.mem_iff_getElem.mp hw
    have apart := List.pairwise_iff_getElem.mp (List.pairwise_map.mp once)
    -- two values of one name would stand at two places, where the names differ, or at one place
    rcases Nat.lt_trichotomy i j with lt | rfl | gt
    · exact apart i j hi hj lt (by rw [first, second])
    · obtain rfl : v = w := (Prod.mk.inj (first.symm.trans second)).2
      rw [ParamValue.same_self_iff.mpr (definite _ hv)] at differs
      cases differs
    · exact apart j i hj hi gt (by rw [first, second])

/-- A chain of steps fails in its first step or behind it. -/
theorem of_bind_eq_error {ε α β : Type} {x : Except ε α} {f : α → Except ε β} {e : ε}
    (h : x >>= f = .error e) : x = .error e ∨ ∃ a, x = .ok a ∧ f a = .error e := by
  cases x with
  | error e' => exact .inl (congrArg Except.error (Except.error.inj h))
  | ok a => exact .inr ⟨a, rfl, h⟩

/-- Binding ends with a collision at the first binding that gives another value than its name has. -/
theorem bindAll_eq_collision {bindings : List Binding} {p : Parameters} {n : String}
    (h : p.bindAll bindings = .error (.parameterCollision n)) :
    ∃ before b after, bindings = before ++ b :: after ∧ p.Contradicts before b ∧ n = b.1 := by
  have failed : (p.extend bindings).2 = some (.parameterCollision n) := by
    rw [Parameters.bindAll] at h
    split at h
    · cases h
    · rename_i same
      rw [same, Except.error.inj h]
  obtain ⟨before, b, after, split, _, contradicts, same⟩ := Parameters.extend_eq_some failed
  exact ⟨before, b, after, split, contradicts, QueryError.parameterCollision.inj same⟩

/-- Where the values of a condition cannot be bound, a name of them has two values there, or has been bound
    before. -/
theorem collides_of_bindAll {c : Condition} {p : Parameters} {n : String}
    (h : p.bindAll c.bindings = .error (.parameterCollision n)) :
    FilterOutcome.Collides (.ok (some c)) n ∨ n ∈ FilterOutcome.names (.ok (some c)) ∧ n ∈ p.names := by
  obtain ⟨before, b, after, split, ⟨old, given, differs⟩, rfl⟩ := bindAll_eq_collision h
  have last : b ∈ c.bindings := by
    rw [split]
    simp
  -- the name's other value was there at first, or it was bound by the condition itself
  rcases Option.or_eq_some_iff.mp given with found | ⟨_, found⟩
  · refine .inr ⟨?_, Parameters.mem_names_of_find? found⟩
    show b.1 ∈ namesOf [c]
    rw [namesOf_cons]
    exact List.mem_append_left _ (List.mem_map_of_mem last)
  · have first : (b.1, old) ∈ c.bindings := by
      rw [split]
      exact List.mem_append_left _ (mem_of_lookup found)
    exact .inl (.inr ⟨c, rfl, old, b.2, first, last, differs⟩)

/-- Where collecting ends with a collision, the name has two values in one condition, or it has been bound
    before. -/
theorem collect_eq_collision {outcomes : List FilterOutcome} {p : Parameters} {n : String}
    (h : collect p outcomes = .error (.parameterCollision n)) :
    ∃ before o after, outcomes = before ++ o :: after ∧
      (o.Collides n ∨ n ∈ o.names ∧ (n ∈ p.names ∨ n ∈ namesOf (kept before))) := by
  induction outcomes generalizing p with
  | nil => cases h
  | cons o rest ih =>
    cases o with
    | error e =>
      cases h
      exact ⟨[], _, rest, rfl, .inl (.inl rfl)⟩
    | ok c? =>
      cases c? with
      | none =>
        obtain ⟨before, o, after, rfl, reason⟩ := ih h
        exact ⟨.ok none :: before, o, after, rfl, reason⟩
      | some c =>
        -- the step itself fails, or one behind it, which sees the names of this one as bound
        rcases of_bind_eq_error h with stops | ⟨q, bound, h⟩
        · refine ⟨[], .ok (some c), rest, rfl, ?_⟩
          exact (collides_of_bindAll stops).imp_right fun ⟨named, earlier⟩ => ⟨named, .inl earlier⟩
        · rcases of_bind_eq_error h with stops | ⟨_, _, h⟩
          · obtain ⟨before, o, after, rfl, reason⟩ := ih stops
            refine ⟨.ok (some c) :: before, o, after, rfl, reason.imp_right ?_⟩
            rintro ⟨named, earlier⟩
            have keeps : kept (.ok (some c) :: before) = c :: kept before := rfl
            rw [keeps, namesOf_cons, List.mem_append, ← or_assoc, ← Parameters.mem_names_of_bindAll bound]
            exact ⟨named, earlier⟩
          · cases h

/-! ## Names that are bound once -/

/-- At most one of the outcomes binds the name. -/
def BoundOnce (n : String) (outcomes : List FilterOutcome) : Prop :=
  outcomes.Pairwise fun o o' => n ∈ FilterOutcome.names o → n ∉ FilterOutcome.names o'

/-- A name that one condition binds is among the names of all. -/
theorem mem_namesOf_of_mem {cs : List Condition} {c : Condition} (hc : c ∈ cs) {n : String}
    (hn : n ∈ FilterOutcome.names (.ok (some c))) : n ∈ namesOf cs := by
  obtain ⟨before, after, rfl⟩ := List.append_of_mem hc
  have hn : n ∈ namesOf [c] := hn
  rw [namesOf_cons, namesOf_nil, List.append_nil] at hn
  rw [namesOf_append, namesOf_cons]
  exact List.mem_append_right _ (List.mem_append_left _ hn)

namespace BoundOnce

variable {n : String} {outcomes others : List FilterOutcome}

theorem of_perm (perm : outcomes.Perm others) (h : BoundOnce n others) : BoundOnce n outcomes :=
  (perm.pairwise_iff fun apart hn hn' => apart hn' hn).mpr h

theorem of_silent (silent : ∀ o ∈ outcomes, n ∉ FilterOutcome.names o) : BoundOnce n outcomes :=
  List.pairwise_of_forall_mem_list fun o ho _ _ hn => absurd hn (silent o ho)

/-- Outcomes that do not bind the name may come behind, or in front (`silent_append`). -/
theorem append_silent (h : BoundOnce n outcomes) (silent : ∀ o ∈ others, n ∉ FilterOutcome.names o) :
    BoundOnce n (outcomes ++ others) :=
  List.pairwise_append.mpr ⟨h, of_silent silent, fun _ _ o ho _ => silent o ho⟩

theorem silent_append (silent : ∀ o ∈ outcomes, n ∉ FilterOutcome.names o) (h : BoundOnce n others) :
    BoundOnce n (outcomes ++ others) :=
  List.pairwise_append.mpr ⟨of_silent silent, h, fun o ho _ _ hn => absurd hn (silent o ho)⟩

end BoundOnce

/-! ## Selects -/

/-- The check of the finished text reports no collision. -/
theorem Query.check_ne_collision {text : String} {params : Parameters} {n : String} :
    check text params ≠ .error (.parameterCollision n) := by
  intro h
  rw [check] at h
  split at h
  · cases h
  · split at h <;> cases h

namespace Select

variable {s : Select} {n : String}

/-- The outcomes of the filters, those on rows first. -/
def filtering (s : Select) : List FilterOutcome :=
  filterOutcomes "filter" s.columnFilters s.filters ++ s.groupOutcomes

/-- All that a select collects, its page included. -/
def steps (s : Select) : List FilterOutcome :=
  s.outcomes ++ (s.page.map Page.clause).toList.map fun c => .ok (some c)

/-- The outcomes of the window and of the page. -/
def ownOutcomes (s : Select) : List FilterOutcome :=
  (s.timeRange.toList.map fun range => .ok (some range.condition)) ++
    (s.page.map Page.clause).toList.map fun c => .ok (some c)

/-- What is collected: the select's own, what it is given, and its filters. -/
theorem perm_steps (s : Select) : s.steps.Perm
    (s.ownOutcomes ++ ((s.conditions.map fun c => .ok (some c)) ++ s.filtering)) := by
  simp only [steps, outcomes, rowOutcomes, filtering, ownOutcomes, List.append_assoc]
  refine List.Perm.append_left _ ?_
  refine (List.perm_append_comm_assoc _ _ _).trans (.trans (.append_left _ ?_)
    (List.perm_append_comm_assoc _ _ _))
  rw [← List.append_assoc]
  exact List.perm_append_comm

/-- To collect two lists is to collect the second behind the first. -/
theorem collect_append (p : Parameters) (xs ys : List FilterOutcome) :
    collect p (xs ++ ys) = (collect p xs).bind fun front =>
      (collect front.2 ys).map fun back => (front.1 ++ back.1, back.2) := by
  induction xs generalizing p with
  | nil =>
    show collect p ys = (collect p ys).map fun back => back
    cases collect p ys <;> rfl
  | cons o rest ih =>
    cases o with
    | error e => rfl
    | ok c? =>
      cases c? with
      | none => exact ih p
      | some c =>
        show (p.bindAll c.bindings).bind _ = ((p.bindAll c.bindings).bind _).bind _
        cases p.bindAll c.bindings with
        | error e => rfl
        | ok q =>
          show (collect q (rest ++ ys)).bind _ = ((collect q rest).bind _).bind _
          rw [ih q]
          cases collect q rest with
          | error e => rfl
          | ok front =>
            show ((collect front.2 ys).map _).bind _ = (collect front.2 ys).map _
            cases collect front.2 ys <;> rfl

/-- A collision in a select is one of its steps. -/
theorem collect_steps (h : s.build = .error (.parameterCollision n)) :
    collect Parameters.empty s.steps = .error (.parameterCollision n) := by
  rw [steps, outcomes, collect_append, collect_append]
  rcases of_bind_eq_error h with h | ⟨⟨statement, params⟩, _, h⟩
  · -- the rows, the groups and the page, in this order; the first that fails is where the steps fail
    rcases of_bind_eq_error h with rows | ⟨front, rows, h⟩
    · rw [rows]
      rfl
    · rw [rows]
      rcases of_bind_eq_error h with groups | ⟨back, groups, h⟩
      · show ((collect front.2 s.groupOutcomes).map _).bind _ = _
        rw [groups]
        rfl
      · show ((collect front.2 s.groupOutcomes).map _).bind _ = _
        rw [groups]
        rcases of_bind_eq_error h with bound | ⟨_, _, h⟩
        · cases page : s.page with
          | none =>
            rw [page] at bound
            cases bound
          | some clause =>
            rw [page] at bound
            have bound : back.2.bindAll (clause.clause.bindings ++ []) = _ := bound
            rw [List.append_nil] at bound
            show ((back.2.bindAll clause.clause.bindings).bind _).map _ = _
            rw [bound]
            rfl
        · cases h
  · exact absurd h Query.check_ne_collision

/-- What a select adds on its own is the condition of its window or the clause of its page. -/
theorem mem_ownOutcomes {o : FilterOutcome} (ho : o ∈ s.ownOutcomes) :
    (∃ range : TimeRange, o = .ok (some range.condition)) ∨ ∃ page : Page, o = .ok (some page.clause) := by
  rcases List.mem_append.mp ho with ho | ho
  · obtain ⟨range, _, rfl⟩ := List.mem_map.mp ho
    exact .inl ⟨range, rfl⟩
  · obtain ⟨clause, hc, rfl⟩ := List.mem_map.mp ho
    obtain ⟨page, _, rfl⟩ := Option.map_eq_some_iff.mp (Option.mem_toList.mp hc)
    exact .inr ⟨page, rfl⟩

/-- A window binds names of its own. -/
theorem mem_names_condition {range : TimeRange}
    (hn : n ∈ FilterOutcome.names (.ok (some range.condition))) :
    n ∈ ["startTime", "endTime", "pastHours"] := by
  obtain ⟨column, window⟩ := range
  cases window with
  | between start stop => exact List.mem_append_left ["pastHours"] hn
  | pastHours hours => exact List.mem_append_right ["startTime", "endTime"] hn

/-- The window and the page bind reserved names. -/
theorem mem_reservedNames {o : FilterOutcome} (ho : o ∈ s.ownOutcomes) (hn : n ∈ FilterOutcome.names o) :
    n ∈ reservedNames := by
  rcases mem_ownOutcomes ho with ⟨range, rfl⟩ | ⟨page, rfl⟩
  · exact List.mem_append_left _ (List.mem_append_left _ (mem_names_condition hn))
  · exact List.mem_append_right _ hn

/-- The window and the page bind different names, each once. -/
theorem boundOnce_own (s : Select) (n : String) : BoundOnce n s.ownOutcomes := by
  have pageless (range : TimeRange) (page : Page)
      (hn : n ∈ FilterOutcome.names (.ok (some range.condition))) :
      n ∉ FilterOutcome.names (.ok (some page.clause)) := fun hn' =>
    (show ∀ m ∈ ["startTime", "endTime", "pastHours"], m ∉ Page.names by decide) n
      (mem_names_condition hn) hn'
  rw [ownOutcomes]
  cases s.timeRange with
  | none =>
    cases s.page with
    | none => exact List.Pairwise.nil
    | some page => exact List.pairwise_singleton _ _
  | some range =>
    cases s.page with
    | none => exact List.pairwise_singleton _ _
    | some page => exact List.pairwise_pair.mpr (pageless range page)

/-- Neither the window nor the page is the reason of a collision. -/
theorem not_collides_own {o : FilterOutcome} (ho : o ∈ s.ownOutcomes) : ¬o.Collides n := by
  rcases mem_ownOutcomes ho with ⟨⟨column, window⟩, rfl⟩ | ⟨page, rfl⟩
  · cases window with
    | between start stop =>
      refine not_collides_of_nodup (show ["startTime", "endTime"].Nodup by decide) ?_
      simp [Definite, TimeRange.condition, ParamValue.isNotANumber]
    | pastHours hours =>
      refine not_collides_of_nodup (show ["pastHours"].Nodup by decide) ?_
      simp [Definite, TimeRange.condition, ParamValue.isNotANumber]
  · refine not_collides_of_nodup (show ["limit", "offset"].Nodup by decide) ?_
    simp [Definite, Page.clause, boundCount, ParamValue.isNotANumber]

end Select

end TraceQuery
