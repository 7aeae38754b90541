/-
  Bindings made one after another, and what their order matters.

  1. **Who comes first** (`Parameters.given?`): a name keeps the value that the map has for it, and else the
     first one that the bindings give.  One binding extends that (`given?_of_bind`), and so does a whole run
     of them (`find?_extend`).
  2. **Failure** (`extend_eq_some`): a run ends at the first binding that contradicts the value its name has by
     then, with the map that was reached before it.
  3. **Order** (`extend_eq_none_iff_consistent`): whether all bindings can be made is a property of the set of
     values given for each name.  So it is the same for all orders, and so is the map that is reached, as far
     as equality of values tells: the two zeros are equal, and which of them is kept is not told
     (`extend_together`).

  Mathlib-free.
-/
import TraceQuery.Proofs.Query.Values

namespace TraceQuery

/-! ## Values that are given -/

/-- None of the values is one that is not a number. -/
def Definite (bindings : List Binding) : Prop := ∀ b ∈ bindings, b.2.isNotANumber = false

/-- All values that are given for one name are the same. -/
def Consistent (bindings : List Binding) : Prop :=
  ∀ b ∈ bindings, ∀ c ∈ bindings, b.1 = c.1 → b.2.same c.2 = true

theorem mem_of_lookup {bindings : List Binding} {n : String} {v : ParamValue}
    (h : bindings.lookup n = some v) : (n, v) ∈ bindings := by
  obtain ⟨before, after, rfl, _⟩ := List.lookup_eq_some_iff.mp h
  simp

namespace Parameters

variable {p q : Parameters} {xs ys : List Binding} {b : Binding} {name n : String} {value : ParamValue}

/-! ## One binding -/

/-- The value that a name has after some bindings: the map's own, and else the first one that is given. -/
def given? (p : Parameters) (bindings : List Binding) (name : String) : Option ParamValue :=
  (p.find? name).or (bindings.lookup name)

/-- The binding gives another value than the one that its name has by then. -/
def Contradicts (p : Parameters) (before : List Binding) (b : Binding) : Prop :=
  ∃ old, p.given? before b.1 = some old ∧ old.same b.2 = false

/-- One binding answers for its own name only. -/
theorem lookup_singleton (name n : String) (value : ParamValue) :
    [(name, value)].lookup n = if n = name then some value else none := by
  by_cases own : n = name
  · subst own
    simp
  · have other : (n == name) = false := by simpa using own
    simp [List.lookup_cons, other, own]

theorem given?_nil (p : Parameters) (n : String) : p.given? [] n = p.find? n := Option.or_none

/-- A binding that is made may as well stand in front of those to come. -/
theorem given?_of_bind (bound : p.bind name value = .ok q) (bindings : List Binding) (n : String) :
    q.given? bindings n = p.given? ((name, value) :: bindings) n := by
  have step : q.find? n = p.given? [(name, value)] n := by
    rw [given?, lookup_singleton]
    rw [bind] at bound
    split at bound
    · -- a new name gets the value; no other name is touched
      rename_i fresh
      rw [← Except.ok.inj bound, find?_insert fresh]
      by_cases own : n = name
      · simp [own, fresh]
      · simp [own]
    · -- a known one keeps its own, which the new value equals
      rename_i old found
      split at bound
      · rw [← Except.ok.inj bound]
        by_cases own : n = name
        · simp [own, found]
        · simp [own]
      · cases bound
  rw [given?, step, given?, given?, Option.or_assoc, ← List.lookup_append]
  rfl

/-- What contradicts the map that a binding gives contradicts the map before it, with that binding in
    front. -/
theorem contradicts_of_bind (bound : p.bind name value = .ok q) (before : List Binding) (b : Binding) :
    q.Contradicts before b ↔ p.Contradicts ((name, value) :: before) b := by
  rw [Contradicts, Contradicts, given?_of_bind bound]

/-- A binding fails exactly if its name has another value by then, and says so by the name. -/
theorem bind_eq_error {e : QueryError} :
    p.bind name value = .error e ↔ p.Contradicts [] (name, value) ∧ e = .parameterCollision name := by
  rw [Contradicts, given?_nil, bind]
  cases found : p.find? name with
  | none => simp
  | some old =>
    show (if old.same value then _ else _) = _ ↔ _
    cases same : old.same value with
    | true => simp [same]
    | false =>
      rw [if_neg Bool.false_ne_true, Except.error.injEq]
      constructor
      · rintro rfl
        exact ⟨⟨old, rfl, same⟩, rfl⟩
      · rintro ⟨_, rfl⟩
        rfl

/-! ## Many bindings -/

/-- A run goes on from the map that its first binding gives. -/
theorem extend_cons (bound : p.bind name value = .ok q) (xs : List Binding) :
    p.extend ((name, value) :: xs) = q.extend xs := by
  rw [extend, bound]

/-- After a run of bindings a name has the value that came first. -/
theorem find?_extend (done : (p.extend xs).2 = none) (n : String) :
    (p.extend xs).1.find? n = p.given? xs n := by
  induction xs generalizing p with
  | nil => exact (given?_nil p n).symm
  | cons b rest ih =>
    obtain ⟨name, value⟩ := b
    cases bound : p.bind name value with
    | error e =>
      rw [extend, bound] at done
      cases done
    | ok p' =>
      rw [extend_cons bound] at done ⊢
      rw [ih done, given?_of_bind bound]

/-- After a run that succeeds, the names are those of the map and those of the bindings. -/
theorem mem_names_of_extend (done : (p.extend xs).2 = none) :
    n ∈ (p.extend xs).1.names ↔ n ∈ p.names ∨ n ∈ xs.map Prod.fst := by
  refine mem_names_of_bindAll (p := p) ?_
  rw [bindAll]
  split
  · rename_i reached
    rw [reached]
  · rename_i failed
    rw [failed] at done
    cases done

/-- A run that fails does so at the first binding that contradicts what came before it, and leaves the map
    that was reached by then. -/
theorem extend_eq_some {e : QueryError} (failed : (p.extend xs).2 = some e) :
    ∃ before b after, xs = before ++ b :: after ∧ p.extend before = ((p.extend xs).1, none) ∧
      p.Contradicts before b ∧ e = .parameterCollision b.1 := by
  -- the run fails at its first binding, or goes on from another map and fails there
  induction xs generalizing p with
  | nil => cases failed
  | cons b rest ih =>
    obtain ⟨name, value⟩ := b
    cases bound : p.bind name value with
    | error e' =>
      obtain ⟨contradicts, rfl⟩ := bind_eq_error.mp bound
      rw [extend, bound] at failed ⊢
      exact ⟨[], (name, value), rest, rfl, rfl, contradicts, (Option.some.inj failed).symm⟩
    | ok p' =>
      rw [extend_cons bound] at failed ⊢
      obtain ⟨before, b, after, rfl, reached, contradicts, rfl⟩ := ih failed
      refine ⟨(name, value) :: before, b, after, rfl, ?_, ?_, rfl⟩
      · rw [extend_cons bound, reached]
      · exact (contradicts_of_bind bound before b).mp contradicts

/-- A run succeeds if no binding contradicts what came before it. -/
theorem extend_eq_none_iff :
    (p.extend xs).2 = none ↔
      ∀ before b after, xs = before ++ b :: after → ¬ p.Contradicts before b := by
  constructor
  · intro done
    induction xs generalizing p with
    | nil =>
      intro before b after split
      cases before <;> cases split
    | cons first rest ih =>
      obtain ⟨name, value⟩ := first
      cases bound : p.bind name value with
      | error e =>
        rw [extend, bound] at done
        cases done
      | ok p' =>
        rw [extend_cons bound] at done
        intro before b after split contradicts
        cases before with
        | nil =>
          obtain ⟨rfl, rfl⟩ := List.cons.inj split
          rw [bind_eq_error.mpr ⟨contradicts, rfl⟩] at bound
          cases bound
        | cons c before =>
          obtain ⟨rfl, rfl⟩ := List.cons.inj split
          exact ih done before b after rfl ((contradicts_of_bind bound before b).mpr contradicts)
  · intro free
    cases failed : (p.extend xs).2 with
    | none => rfl
    | some e =>
      obtain ⟨before, b, after, split, _, contradicts, _⟩ := extend_eq_some failed
      exact absurd contradicts (free before b after split)

/-! ## Order -/

/-- What a name is given is given somewhere. -/
theorem mem_of_given? (given : p.given? xs n = some value) : (n, value) ∈ p.entries ++ xs := by
  rw [List.mem_append]
  rcases Option.or_eq_some_iff.mp given with found | ⟨_, found⟩
  · exact .inl (find?_eq_some_iff.mp found)
  · exact .inr (mem_of_lookup found)

/-- In a run that succeeds every value given for a name is the same as the one that the name has. -/
theorem same_given (definite : Definite (p.entries ++ xs)) (done : (p.extend xs).2 = none)
    (given : b ∈ p.entries ++ xs) : ∃ v, p.given? xs b.1 = some v ∧ v.same b.2 = true := by
  have self : b.2.same b.2 = true := ParamValue.same_self_iff.mpr (definite b given)
  -- a value of the map is its name's own; one that is added was compared when its turn came
  rcases List.mem_append.mp given with own | added
  · have found : p.find? b.1 = some b.2 := find?_eq_some_iff.mpr own
    exact ⟨b.2, by rw [given?, found, Option.some_or], self⟩
  · obtain ⟨before, after, rfl⟩ := List.append_of_mem added
    have free := extend_eq_none_iff.mp done before b after rfl
    have whole : p.given? (before ++ b :: after) b.1
        = (p.given? before b.1).or ((b :: after).lookup b.1) := by
      rw [given?, List.lookup_append, given?, Option.or_assoc]
    rw [whole]
    cases first : p.given? before b.1 with
    | none =>
      have own : ((b.1, b.2) :: after).lookup b.1 = some b.2 := List.lookup_cons_self
      exact ⟨b.2, own, self⟩
    | some old =>
      refine ⟨old, rfl, ?_⟩
      cases same : old.same b.2 with
      | true => rfl
      | false => exact absurd ⟨old, first, same⟩ free

/-- All bindings can be made if for each name all values that are given for it are the same. -/
theorem extend_eq_none_iff_consistent (definite : Definite (p.entries ++ xs)) :
    (p.extend xs).2 = none ↔ Consistent (p.entries ++ xs) := by
  constructor
  · intro done b hb c hc name
    obtain ⟨v, given, same⟩ := same_given definite done hb
    obtain ⟨w, given', same'⟩ := same_given definite done hc
    rw [name, given'] at given
    cases given
    rw [ParamValue.same_comm] at same
    exact ParamValue.same_trans same same'
  · intro consistent
    refine extend_eq_none_iff.mpr ?_
    rintro before b after rfl ⟨old, given, other⟩
    -- the value that a name has by then was given earlier, so it is among those that agree
    have earlier : (b.1, old) ∈ p.entries ++ (before ++ b :: after) := by
      rw [← List.append_assoc]
      exact List.mem_append_left _ (mem_of_given? given)
    have same := consistent _ earlier b (by simp) rfl
    rw [other] at same
    cases same

/-- Equality of maps: the same names, with the same value each. -/
def Same (p q : Parameters) : Prop :=
  p.names = q.names ∧ ∀ n v w, p.find? n = some v → q.find? n = some w → v.same w = true

/-- Two runs in which the same values are given succeed together, and then with the same map. -/
theorem extend_together (definite : Definite (p.entries ++ xs))
    (given : ∀ b, b ∈ q.entries ++ ys ↔ b ∈ p.entries ++ xs) :
    ((p.extend xs).2 = none ↔ (q.extend ys).2 = none) ∧
      ((p.extend xs).2 = none → (p.extend xs).1.Same (q.extend ys).1) := by
  have definite' : Definite (q.entries ++ ys) := fun b hb => definite b ((given b).mp hb)
  have consistent := extend_eq_none_iff_consistent definite
  have consistent' := extend_eq_none_iff_consistent definite'
  have both : (p.extend xs).2 = none ↔ (q.extend ys).2 = none := by
    rw [consistent, consistent']
    simp only [Consistent, given]
  refine ⟨both, fun done => ⟨?_, ?_⟩⟩
  · refine eq_of_ascending (names_ascending _) (names_ascending _) fun n => ?_
    -- who has a value is said of the set of all that is given, where both runs are alike
    have names (p : Parameters) (xs : List Binding) :
        n ∈ p.names ∨ n ∈ xs.map Prod.fst ↔ ∃ b ∈ p.entries ++ xs, b.1 = n := by
      rw [← List.mem_append, names, ← List.map_append, List.mem_map]
    rw [mem_names_of_extend done, mem_names_of_extend (both.mp done), names, names]
    simp only [given]
  · intro n v w first second
    rw [find?_extend done] at first
    rw [find?_extend (both.mp done)] at second
    exact consistent.mp done _ (mem_of_given? first) _ ((given _).mp (mem_of_given? second)) rfl

/-- Which values a run of bindings leaves, and when it fails.

    It succeeds if for each name all values given for it are the same; then each name keeps the value that came
    first, and every other order succeeds with the same map.  If it fails, it does so at the first binding that
    gives another value than the one its name has by then, with what was reached before that binding.  Merging
    two maps is such a run, and either may be merged into the other. -/
theorem extend_first_come (definite : Definite p.entries) (definite' : Definite xs) :
    ((p.extend xs).2 = none ↔ Consistent (p.entries ++ xs)) ∧
    ((p.extend xs).2 = none →
      (∀ n, n ∈ (p.extend xs).1.names ↔ n ∈ p.names ∨ n ∈ xs.map Prod.fst) ∧
      (∀ n, (p.extend xs).1.find? n = (p.find? n).or (xs.lookup n)) ∧
      ∀ ys, xs.Perm ys → (p.extend ys).2 = none ∧ (p.extend xs).1.Same (p.extend ys).1) ∧
    (∀ e, (p.extend xs).2 = some e → ∃ before b after, xs = before ++ b :: after ∧
      p.Contradicts before b ∧
      (∀ earlier c later, before = earlier ++ c :: later → ¬ p.Contradicts earlier c) ∧
      e = .parameterCollision b.1 ∧ p.extend before = ((p.extend xs).1, none)) ∧
    ∀ q : Parameters, Definite q.entries → p.merge q = p.extend q.entries ∧
      ((p.merge q).2 = none ↔ (q.merge p).2 = none) ∧
      ((p.merge q).2 = none → (p.merge q).1.Same (q.merge p).1) := by
  have both {p : Parameters} {xs : List Binding} (hp : Definite p.entries) (hx : Definite xs) :
      Definite (p.entries ++ xs) := fun b hb => (List.mem_append.mp hb).elim (hp b) (hx b)
  refine ⟨extend_eq_none_iff_consistent (both definite definite'), ?_, ?_, ?_⟩
  · intro done
    refine ⟨fun n => mem_names_of_extend done, find?_extend done, fun ys perm => ?_⟩
    obtain ⟨together, same⟩ := extend_together (both definite definite')
      fun b => (perm.symm.append_left p.entries).mem_iff
    exact ⟨together.mp done, same done⟩
  · intro e failed
    obtain ⟨before, b, after, split, reached, contradicts, named⟩ := extend_eq_some failed
    have free := extend_eq_none_iff.mp (congrArg Prod.snd reached)
    exact ⟨before, b, after, split, contradicts, free, named, reached⟩
  · intro q hq
    exact ⟨rfl, extend_together (both definite hq) fun b => List.perm_append_comm.mem_iff⟩

/-- A map in which a name has the value zero. -/
def withZero : Parameters := empty.insert "x" (.float (.finite (.zero false)))

/-- A map in which it has the other zero, beside another name. -/
def withMinusZero : Parameters := (empty.insert "x" (.float (.finite (.zero true)))).insert "a" (.int 1)

/-- The other zero is no contradiction: it can be bound again and merged either way, and the map keeps its own. -/
theorem extend_first_come_zeros :
    Definite withZero.entries ∧ Definite [("a", .int 1), ("x", .float (.finite (.zero true))), ("a", .int 1)] ∧
      Definite withMinusZero.entries ∧
      (withZero.extend [("a", .int 1), ("x", .float (.finite (.zero true))), ("a", .int 1)]).2 = none ∧
      (withZero.extend [("a", .int 1), ("x", .float (.finite (.zero true))), ("a", .int 1)]).1.find? "x"
        = some (.float (.finite (.zero false))) ∧
      (withZero.merge withMinusZero).1.Same (withMinusZero.merge withZero).1 := by
  have zero : Definite withZero.entries := by
    unfold Definite
    decide
  have minusZero : Definite withMinusZero.entries := by
    unfold Definite
    decide
  have definite : Definite [("a", .int 1), ("x", .float (.finite (.zero true))), ("a", .int 1)] := by
    unfold Definite
    decide
  obtain ⟨succeeds, outcome, _, merged⟩ := extend_first_come zero definite
  have done := succeeds.mpr (by unfold Consistent; decide)
  refine ⟨zero, definite, minusZero, done, ?_, (merged withMinusZero minusZero).2.2 (by decide)⟩
  rw [(outcome done).2.1]
  decide

end Parameters

end TraceQuery
