/-
  Records read from the members of an object.

  1. **Fields** (`RecordField`): a key, the reader of its value, and where in the draft the value is
     kept.  What a field holds after some values depends on them and on nothing else (`Held`): at most
     one is taken, and it has to be readable.
  2. **Records** (`Record`): the members that come in drive the fields of a draft side by side, each with
     its own key, and what is left over goes to the rest of the draft.
  3. **Reading** (`Record.readMembers_iff`): the members of an object are read one after the other, but
     what is read is what the fields hold, each of the values at its own key, and what the members with
     other keys leave in the rest.  No order among the keys plays a part.
  4. **Taken as a whole** (`isSome_toValue?_iff`): the nodes that can be kept for later are the readable
     ones that are not too deep.
  5. **Complete** (`Takes`): a reader that looks at all of a node only takes complete ones, and so does a
     record whose readers do.
-/
import Mathlib.Data.List.Nodup
import TraceQuery.Json.Reading
import TraceQuery.Proofs.Query.Binding

namespace TraceQuery.Json

/-! ## Members -/

/-- The name that a key node stands for. -/
def Node.key? : Node → Option String
  | .scalar (.string s) => some s
  | _ => none

/-- The values of the members with a key. -/
def valuesAt (key : String) (members : List (Node × Node)) : List Node :=
  members.filterMap fun m => if m.1.key? = some key then some m.2 else none

/-- The members with none of some keys. -/
def membersBeside (own : List String) (members : List (Node × Node)) : List (Node × Node) :=
  members.filter fun m => m.1.key?.all fun key => !own.contains key

/-- A node that stands for a name is the string of it. -/
theorem eq_of_key?_eq_some {k : Node} {key : String} (h : k.key? = some key) :
    k = .scalar (.string key) := by
  unfold Node.key? at h
  split at h
  · rw [Option.some.inj h]
  · cases h

theorem readKey_eq_ok {k : Node} {key : String} : k.readKey = .ok key ↔ k.key? = some key := by
  unfold Node.readKey Node.key?
  split <;> simp

section Members

variable {σ : Type} {put : σ → String → Node → Except ReadError σ} {closed : Bool} {s d : σ}
  {k n : Node} {rest : List (Node × Node)}

/-- Without members nothing is read, and the object must have been closed. -/
theorem readMembers_nil : Node.readMembers put closed s [] = .ok d ↔ closed = true ∧ s = d := by
  cases closed <;> simp [Node.readMembers]

/-- The first member is taken in, and the others go on from there. -/
theorem readMembers_cons : Node.readMembers put closed s ((k, n) :: rest) = .ok d ↔
    ∃ key s', k.key? = some key ∧ put s key n = .ok s' ∧
      Node.readMembers put closed s' rest = .ok d := by
  constructor
  · intro h
    obtain ⟨key, hkey, h⟩ := bind_eq_ok h
    obtain ⟨s', hput, h⟩ := bind_eq_ok h
    exact ⟨key, s', readKey_eq_ok.mp hkey, hput, h⟩
  · rintro ⟨key, s', hkey, hput, h⟩
    rw [Node.readMembers, readKey_eq_ok.mpr hkey]
    show (put s key n).bind _ = _
    rw [hput]
    exact h

end Members

theorem return_eq_ok {σ α : Type} {x : Except ReadError α} {f : α → σ} {s : σ} :
    (do return f (← x) : Except ReadError σ) = .ok s ↔ ∃ a, x = .ok a ∧ s = f a := by
  cases x with
  | error e => simp [bind, Except.bind]
  | ok r => simp [bind, Except.bind, pure, Except.pure, eq_comm]

/-- A value is taken once: nothing was there before, and what came could be read. -/
theorem once_eq_ok {α : Type} {old new : Option α} {key : String} {read : Except ReadError α} :
    once old key read = .ok new ↔ old = none ∧ ∃ a, read = .ok a ∧ new = some a := by
  cases old with
  | some a => simp [once]
  | none =>
    cases read with
    | error e => simp [once, Except.map]
    | ok a => simp [once, Except.map, eq_comm]

/-! ## Fields -/

/-- A field of what is being read. -/
structure RecordField (σ : Type) where
  /-- The name of the member that fills the field. -/
  key : String
  {Value : Type}
  /-- What the draft holds in the field. -/
  get : σ → Option Value
  set : σ → Option Value → σ
  /-- How a value of the field is read. -/
  read : Node → Except ReadError Value

/-- What a field holds after some more values at its key. -/
def Held {α : Type} (read : Node → Except ReadError α) : Option α → List Node → Option α → Prop
  | old, [], new => new = old
  | old, n :: rest, new => old = none ∧ ∃ a, read n = .ok a ∧ Held read (some a) rest new

section Held

variable {α : Type} {read : Node → Except ReadError α} {old new new' : Option α} {xs ys : List Node}
  {n : Node} {a : α}

/-- One value is taken by an empty field if it can be read. -/
theorem held_one : Held read old [n] new ↔ old = none ∧ ∃ a, read n = .ok a ∧ new = some a := Iff.rfl

/-- Values come in one after another. -/
theorem held_append :
    Held read old (xs ++ ys) new ↔ ∃ mid, Held read old xs mid ∧ Held read mid ys new := by
  induction xs generalizing old with
  | nil => simp [Held]
  | cons n xs ih =>
    simp only [List.cons_append, Held, ih]
    constructor
    · rintro ⟨rfl, a, hread, mid, before, behind⟩
      exact ⟨mid, ⟨rfl, a, hread, before⟩, behind⟩
    · rintro ⟨mid, ⟨rfl, a, hread, before⟩, behind⟩
      exact ⟨rfl, a, hread, mid, before, behind⟩

/-- A field that holds something takes nothing more. -/
theorem held_some : Held read (some a) xs new ↔ xs = [] ∧ new = some a := by
  cases xs with
  | nil => simp [Held]
  | cons n xs => simp [Held]

/-- A field that holds nothing takes one value at most. -/
theorem held_none : Held read none xs new ↔
    xs = [] ∧ new = none ∨ ∃ n a, xs = [n] ∧ read n = .ok a ∧ new = some a := by
  cases xs with
  | nil => simp [Held]
  | cons n xs =>
    simp only [Held, held_some, true_and, reduceCtorEq, false_and, false_or, List.cons.injEq]
    constructor
    · rintro ⟨a, hread, rfl, rfl⟩
      exact ⟨n, a, ⟨rfl, rfl⟩, hread, rfl⟩
    · rintro ⟨_, a, ⟨rfl, rfl⟩, hread, rfl⟩
      exact ⟨a, hread, rfl, rfl⟩

/-- The values may come in any order, since there is one at most. -/
theorem Held.perm (held : Held read none xs new) (perm : xs.Perm ys) : Held read none ys new := by
  rcases held_none.mp held with ⟨rfl, rfl⟩ | ⟨n, b, rfl, hread, rfl⟩
  · rw [← perm.nil_eq]
    exact held
  · rw [← perm.singleton_eq]
    exact held

/-- What a field holds is determined. -/
theorem Held.unique (h : Held read old xs new) (h' : Held read old xs new') : new = new' := by
  induction xs generalizing old with
  | nil => exact h.trans h'.symm
  | cons n xs ih =>
    obtain ⟨_, a, hread, h⟩ := h
    obtain ⟨_, b, hread', h'⟩ := h'
    rw [hread] at hread'
    cases hread'
    exact ih h h'

end Held

/-! ## Records -/

section Records

variable {σ ρ : Type}

/-- The keys of some fields. -/
def keysOf (fields : List (RecordField σ)) : List String := fields.map RecordField.key

/-- A draft is made of fields and a rest: the members that come in are put into the field with their
    key, and else passed to the rest. -/
structure Record (put : σ → String → Node → Except ReadError σ) (fields : List (RecordField σ))
    (rest : σ → ρ) (setRest : σ → ρ → σ) (pass : ρ → String → Node → Except ReadError ρ) : Prop where
  nodup : (keysOf fields).Nodup
  own : ∀ f ∈ fields, ∀ s n,
    put s f.key n = do return f.set s (← once (f.get s) f.key (f.read n))
  other : ∀ key ∉ keysOf fields, ∀ s n,
    put s key n = do return setRest s (← pass (rest s) key n)
  get_set : ∀ f ∈ fields, ∀ s a, f.get (f.set s a) = a
  get_set_of_ne : ∀ f ∈ fields, ∀ g ∈ fields, f.key ≠ g.key → ∀ s a, g.get (f.set s a) = g.get s
  rest_set : ∀ f ∈ fields, ∀ s a, rest (f.set s a) = rest s
  get_setRest : ∀ f ∈ fields, ∀ s r, f.get (setRest s r) = f.get s
  rest_setRest : ∀ s r, rest (setRest s r) = r
  ext : ∀ s s', (∀ f ∈ fields, f.get s = f.get s') → rest s = rest s' → s = s'

variable {put : σ → String → Node → Except ReadError σ} {fields : List (RecordField σ)} {rest : σ → ρ}
  {setRest : σ → ρ → σ} {pass : ρ → String → Node → Except ReadError ρ} {closed : Bool}

/-- A member with the key of a field is put into this field, if it is empty. -/
theorem Record.put_own (record : Record put fields rest setRest pass) {f : RecordField σ}
    (hf : f ∈ fields) {s s' : σ} {n : Node} : put s f.key n = .ok s' ↔
      f.get s = none ∧ ∃ a, f.read n = .ok a ∧ s' = f.set s (some a) := by
  rw [record.own f hf, return_eq_ok]
  simp only [once_eq_ok]
  constructor
  · rintro ⟨_, ⟨fresh, a, hread, rfl⟩, same⟩
    exact ⟨fresh, a, hread, same⟩
  · rintro ⟨fresh, a, hread, same⟩
    exact ⟨_, ⟨fresh, a, hread, rfl⟩, same⟩

/-- A member with any other key is passed to the rest. -/
theorem Record.put_other (record : Record put fields rest setRest pass) {s s' : σ} {key : String}
    {n : Node} (other : key ∉ keysOf fields) : put s key n = .ok s' ↔
      ∃ r, pass (rest s) key n = .ok r ∧ s' = setRest s r := by
  rw [record.other key other, return_eq_ok]

/-- A member drives the field with its key alone, or the rest. -/
theorem Record.step (record : Record put fields rest setRest pass) {s s' : σ} {key : String} {n : Node}
    (h : put s key n = .ok s') :
    (∀ f ∈ fields, Held f.read (f.get s) (if key = f.key then [n] else []) (f.get s')) ∧
      if key ∈ keysOf fields then rest s' = rest s else pass (rest s) key n = .ok (rest s') := by
  -- the key is that of one field, or of none
  by_cases mem : key ∈ keysOf fields
  · obtain ⟨f, hf, rfl⟩ := List.mem_map.mp mem
    obtain ⟨fresh, a, hread, rfl⟩ := (record.put_own hf).mp h
    refine ⟨fun g hg => ?_, by rw [if_pos mem]; exact record.rest_set f hf s _⟩
    -- keys are distinct, so the field with the key is the one that was put into
    by_cases same : f.key = g.key
    · cases List.inj_on_of_nodup_map record.nodup hf hg same
      rw [if_pos rfl, record.get_set f hf]
      exact held_one.mpr ⟨fresh, a, hread, rfl⟩
    · rw [if_neg same]
      exact record.get_set_of_ne f hf g hg same s _
  · obtain ⟨r, passed, rfl⟩ := (record.put_other mem).mp h
    rw [if_neg mem, record.rest_setRest]
    refine ⟨fun g hg => ?_, passed⟩
    have ne : key ≠ g.key := by
      rintro rfl
      exact mem (List.mem_map_of_mem hg)
    rw [if_neg ne]
    exact record.get_setRest g hg s r

/-- A member is refused only by the field with its key, or by the rest. -/
theorem Record.progress (record : Record put fields rest setRest pass) {s : σ} {key : String} {n : Node}
    (ready : ∀ f ∈ fields, key = f.key → f.get s = none ∧ ∃ a, f.read n = .ok a)
    (passes : key ∉ keysOf fields → ∃ r, pass (rest s) key n = .ok r) :
    ∃ s', put s key n = .ok s' := by
  by_cases mem : key ∈ keysOf fields
  · obtain ⟨f, hf, rfl⟩ := List.mem_map.mp mem
    obtain ⟨fresh, a, hread⟩ := ready f hf rfl
    exact ⟨_, (record.put_own hf).mpr ⟨fresh, a, hread, rfl⟩⟩
  · obtain ⟨r, passed⟩ := passes mem
    exact ⟨_, (record.put_other mem).mpr ⟨r, passed, rfl⟩⟩

/-- The first member adds its value at its own key. -/
theorem valuesAt_cons {k n : Node} {key : String} (name : k.key? = some key) (at' : String)
    (ms : List (Node × Node)) :
    valuesAt at' ((k, n) :: ms) = (if key = at' then [n] else []) ++ valuesAt at' ms := by
  by_cases same : key = at' <;> simp [valuesAt, name, same]

/-- A member with one of the keys is not beside them. -/
theorem membersBeside_cons_of_mem {own : List String} {k n : Node} {key : String}
    (name : k.key? = some key) (mem : key ∈ own) (ms : List (Node × Node)) :
    membersBeside own ((k, n) :: ms) = membersBeside own ms := by
  simp [membersBeside, name, mem]

theorem membersBeside_cons_of_not_mem {own : List String} {k n : Node} {key : String}
    (name : k.key? = some key) (mem : key ∉ own) (ms : List (Node × Node)) :
    membersBeside own ((k, n) :: ms) = (k, n) :: membersBeside own ms := by
  simp [membersBeside, name, mem]

theorem membersBeside_cons_of_none {own : List String} {k n : Node} (name : k.key? = none)
    (ms : List (Node × Node)) :
    membersBeside own ((k, n) :: ms) = (k, n) :: membersBeside own ms := by
  simp [membersBeside, name]

/-- The fields of a draft after a member are what lies between those before it and those at the end. -/
theorem Record.held_behind (record : Record put fields rest setRest pass) {s s' d : σ} {k n : Node}
    {key : String} {members : List (Node × Node)} (name : k.key? = some key)
    (hput : put s key n = .ok s')
    (held : ∀ f ∈ fields, Held f.read (f.get s) (valuesAt f.key ((k, n) :: members)) (f.get d)) :
    ∀ f ∈ fields, Held f.read (f.get s') (valuesAt f.key members) (f.get d) := by
  intro f hf
  have all := held f hf
  rw [valuesAt_cons name] at all
  obtain ⟨mid, here, behind⟩ := held_append.mp all
  rw [((record.step hput).1 f hf).unique here]
  exact behind

/-- What is read is what the fields hold and what the rest takes in. -/
theorem Record.held_of_readMembers (record : Record put fields rest setRest pass) {s d : σ}
    {members : List (Node × Node)} (read : Node.readMembers put closed s members = .ok d) :
    (∀ f ∈ fields, Held f.read (f.get s) (valuesAt f.key members) (f.get d)) ∧
      Node.readMembers pass closed (rest s) (membersBeside (keysOf fields) members) =
        .ok (rest d) := by
  induction members generalizing s with
  | nil =>
    obtain ⟨hclosed, rfl⟩ := readMembers_nil.mp read
    exact ⟨fun f hf => rfl, readMembers_nil.mpr ⟨hclosed, rfl⟩⟩
  | cons m members ih =>
    obtain ⟨k, n⟩ := m
    obtain ⟨key, s', name, hput, read⟩ := readMembers_cons.mp read
    obtain ⟨behind, left⟩ := ih read
    obtain ⟨here, rested⟩ := record.step hput
    -- for a field the member adds its value, or nothing; for the rest it is there, or not
    refine ⟨fun f hf => ?_, ?_⟩
    · rw [valuesAt_cons name]
      exact held_append.mpr ⟨f.get s', here f hf, behind f hf⟩
    · split at rested
      · rename_i mem
        rw [membersBeside_cons_of_mem name mem, ← rested]
        exact left
      · rename_i mem
        rw [membersBeside_cons_of_not_mem name mem]
        exact readMembers_cons.mpr ⟨key, rest s', name, rested, left⟩

/-- Where fields and rest can take in what comes to each of them, the members can be read. -/
theorem Record.readMembers_of_held (record : Record put fields rest setRest pass) {s d : σ}
    {members : List (Node × Node)}
    (held : ∀ f ∈ fields, Held f.read (f.get s) (valuesAt f.key members) (f.get d))
    (left : Node.readMembers pass closed (rest s) (membersBeside (keysOf fields) members) =
      .ok (rest d)) : Node.readMembers put closed s members = .ok d := by
  -- the next draft exists, since its field takes the value, and what it holds is determined
  induction members generalizing s with
  | nil =>
    obtain ⟨hclosed, same⟩ := readMembers_nil.mp left
    exact readMembers_nil.mpr ⟨hclosed, record.ext s d (fun f hf => (held f hf).symm) same⟩
  | cons m members ih =>
    obtain ⟨k, n⟩ := m
    cases name : k.key? with
    | none =>
      -- a key that cannot be read is left to the rest, which cannot read it either
      rw [membersBeside_cons_of_none name, readMembers_cons, name] at left
      obtain ⟨_, _, readable, _⟩ := left
      cases readable
    | some key =>
      have ready : ∀ f ∈ fields, key = f.key → f.get s = none ∧ ∃ a, f.read n = .ok a := by
        intro f hf same
        have all := held f hf
        rw [valuesAt_cons name, if_pos same] at all
        exact ⟨all.1, all.2.imp fun a h => h.1⟩
      by_cases mem : key ∈ keysOf fields
      · obtain ⟨s', hput⟩ := record.progress ready fun h => absurd mem h
        have rested := (record.step hput).2
        rw [if_pos mem] at rested
        rw [membersBeside_cons_of_mem name mem, ← rested] at left
        exact readMembers_cons.mpr ⟨key, s', name, hput, ih (record.held_behind name hput held) left⟩
      · rw [membersBeside_cons_of_not_mem name mem, readMembers_cons, name] at left
        obtain ⟨_, r, same, passed, left⟩ := left
        cases same
        obtain ⟨s', hput⟩ := record.progress ready fun _ => ⟨r, passed⟩
        have rested := (record.step hput).2
        rw [if_neg mem, passed] at rested
        rw [Except.ok.inj rested] at left
        exact readMembers_cons.mpr ⟨key, s', name, hput, ih (record.held_behind name hput held) left⟩

/-- What is read from members in a row is what the fields hold, each after the values at its own key,
    and what the other members leave. -/
theorem Record.readMembers_iff (record : Record put fields rest setRest pass) {s d : σ}
    {members : List (Node × Node)} :
    Node.readMembers put closed s members = .ok d ↔
      (∀ f ∈ fields, Held f.read (f.get s) (valuesAt f.key members) (f.get d)) ∧
        Node.readMembers pass closed (rest s) (membersBeside (keysOf fields) members) =
          .ok (rest d) :=
  ⟨record.held_of_readMembers, fun h => record.readMembers_of_held h.1 h.2⟩

end Records

/-! ## Values taken in as a whole -/

mutual

/-- Tells whether a node stands for a value. -/
def Node.isReadable : Node → Bool
  | .fault => false
  | .unreadable => false
  | .scalar _ => true
  | .array items closed => itemsReadable items && closed
  | .object members closed => membersReadable members && closed

/-- Tells whether every item stands for a value. -/
def itemsReadable : List Node → Bool
  | [] => true
  | n :: rest => n.isReadable && itemsReadable rest

/-- Tells whether every member has a key and stands for a value. -/
def membersReadable : List (Node × Node) → Bool
  | [] => true
  | (k, n) :: rest => k.key?.isSome && n.isReadable && membersReadable rest

end

mutual

/-- How many containers a node is deep. -/
def Node.depth : Node → Nat
  | .array items _ => itemsDepth items + 1
  | .object members _ => membersDepth members + 1
  | _ => 0

/-- How deep the deepest of some items is. -/
def itemsDepth : List Node → Nat
  | [] => 0
  | n :: rest => max n.depth (itemsDepth rest)

/-- How deep the deepest value of some members is. -/
def membersDepth : List (Node × Node) → Nat
  | [] => 0
  | (_, n) :: rest => max n.depth (membersDepth rest)

end

theorem isSome_bind_bind {α β γ : Type} {x : Option α} {y : Option β} {f : α → β → γ} :
    (x.bind fun a => y.bind fun b => some (f a b)).isSome = (x.isSome && y.isSome) := by
  cases x <;> cases y <;> rfl

/-- A member without a key has no value. -/
theorem memberValues_of_none {k n : Node} (name : k.key? = none) (levels : Nat)
    (rest : List (Node × Node)) : memberValues levels ((k, n) :: rest) = none := by
  unfold memberValues
  split
  · rename_i same
    cases same
  · rename_i same
    cases same
    cases name
  · rfl

mutual

/-- The nodes that have a value within some levels are the readable ones that are not deeper. -/
theorem isSome_toValue?_iff : (n : Node) → ∀ levels,
    (n.toValue? levels).isSome = true ↔ n.isReadable = true ∧ n.depth ≤ levels
  | .fault, levels => by simp [Node.toValue?, Node.isReadable]
  | .unreadable, levels => by simp [Node.toValue?, Node.isReadable]
  | .scalar s, levels => by simp [Node.toValue?, Node.isReadable, Node.depth]
  | .array items true, 0 => by simp [Node.toValue?, Node.depth]
  -- a container spends one level on itself
  | .array items true, levels + 1 => by
    simp [Node.toValue?, Node.isReadable, Node.depth, isSome_itemValues_iff items levels]
  | .array items false, levels => by simp [Node.toValue?, Node.isReadable]
  | .object members true, 0 => by simp [Node.toValue?, Node.depth]
  | .object members true, levels + 1 => by
    simp [Node.toValue?, Node.isReadable, Node.depth, isSome_memberValues_iff members levels]
  | .object members false, levels => by simp [Node.toValue?, Node.isReadable]

/-- Items have values within some levels if all of them do. -/
theorem isSome_itemValues_iff : (items : List Node) → ∀ levels,
    (itemValues levels items).isSome = true ↔
      itemsReadable items = true ∧ itemsDepth items ≤ levels
  | [], levels => by simp [itemValues, itemsReadable, itemsDepth]
  | n :: rest, levels => by
    show ((n.toValue? levels).bind fun v =>
      (itemValues levels rest).bind fun vs => some (v :: vs)).isSome = true ↔ _
    rw [isSome_bind_bind, Bool.and_eq_true, isSome_toValue?_iff n levels,
      isSome_itemValues_iff rest levels, itemsReadable, itemsDepth, Bool.and_eq_true, Nat.max_le]
    exact and_and_and_comm

/-- Members have values within some levels if all of them do, and have keys. -/
theorem isSome_memberValues_iff : (members : List (Node × Node)) → ∀ levels,
    (memberValues levels members).isSome = true ↔
      membersReadable members = true ∧ membersDepth members ≤ levels
  | [], levels => by simp [memberValues, membersReadable, membersDepth]
  | (k, n) :: rest, levels => by
    cases name : k.key? with
    | none => simp [memberValues_of_none name, membersReadable, name]
    | some key =>
      rw [eq_of_key?_eq_some name]
      show ((n.toValue? levels).bind fun v =>
        (memberValues levels rest).bind fun vs => some ((key, v) :: vs)).isSome = true ↔ _
      rw [isSome_bind_bind, Bool.and_eq_true, isSome_toValue?_iff n levels,
        isSome_memberValues_iff rest levels, membersReadable, membersDepth, Nat.max_le]
      show _ ↔ (n.isReadable && membersReadable rest) = true ∧ _
      rw [Bool.and_eq_true]
      exact and_and_and_comm

end

/-- In a text a node is taken in if it is readable and not deeper than the levels that are left. -/
theorem whole_text_eq_ok {n : Node} {depth : Nat} :
    n.whole (.text depth) = .ok () ↔ n.isReadable = true ∧ n.depth ≤ maxDepth - depth := by
  rw [← isSome_toValue?_iff]
  show (if _ then _ else _) = _ ↔ _
  split <;> simp [*]

mutual

/-- What stands for a value was not cut short. -/
theorem isComplete_of_isReadable : (n : Node) → n.isReadable = true → n.isComplete = true
  | .fault, h => by cases h
  | .unreadable, _ => rfl
  | .scalar s, _ => rfl
  | .array items closed, h => by
    rw [Node.isReadable, Bool.and_eq_true] at h
    rw [Node.isComplete, itemsComplete_of_readable items h.1, h.2]
    rfl
  | .object members closed, h => by
    rw [Node.isReadable, Bool.and_eq_true] at h
    rw [Node.isComplete, membersComplete_of_readable members h.1, h.2]
    rfl

/-- Items that can be read are complete. -/
theorem itemsComplete_of_readable : (items : List Node) → itemsReadable items = true →
    itemsComplete items = true
  | [], _ => rfl
  | n :: rest, h => by
    rw [itemsReadable, Bool.and_eq_true] at h
    rw [itemsComplete, isComplete_of_isReadable n h.1, itemsComplete_of_readable rest h.2]
    rfl

/-- Members that can be read are complete. -/
theorem membersComplete_of_readable : (members : List (Node × Node)) →
    membersReadable members = true → membersComplete members = true
  | [], _ => rfl
  | (k, n) :: rest, h => by
    rw [membersReadable, Bool.and_eq_true, Bool.and_eq_true] at h
    obtain ⟨key, name⟩ := Option.isSome_iff_exists.mp h.1.1
    rw [membersComplete, eq_of_key?_eq_some name, isComplete_of_isReadable n h.1.2,
      membersComplete_of_readable rest h.2]
    rfl

end

/-! ## Complete nodes -/

/-- A reader that takes complete nodes only. -/
def Takes {α : Type} (read : Node → Except ReadError α) : Prop :=
  ∀ n a, read n = .ok a → n.isComplete = true

section Takes

variable {α : Type} {read : Node → Except ReadError α}

/-- A string is complete. -/
theorem takes_readString : Takes Node.readString := by
  intro n a h
  unfold Node.readString at h
  split at h
  · rfl
  · cases h

/-- Null is complete, too. -/
theorem Takes.readOptional (takes : Takes read) : Takes (Node.readOptional read) := by
  intro n a h
  unfold Node.readOptional at h
  split at h
  · rfl
  · cases hread : read n with
    | error e =>
      rw [hread] at h
      cases h
    | ok a => exact takes n a hread

theorem readItems_nil {closed : Bool} {as : List α} :
    Node.readItems read closed [] = .ok as ↔ closed = true ∧ as = [] := by
  cases closed <;> simp [Node.readItems, eq_comm]

/-- A list is read item by item. -/
theorem readItems_cons {closed : Bool} {n : Node} {rest : List Node} {as : List α} :
    Node.readItems read closed (n :: rest) = .ok as ↔
      ∃ a bs, read n = .ok a ∧ Node.readItems read closed rest = .ok bs ∧ as = a :: bs := by
  constructor
  · intro h
    obtain ⟨a, hread, h⟩ := bind_eq_ok h
    obtain ⟨bs, behind, h⟩ := bind_eq_ok h
    exact ⟨a, bs, hread, behind, (Except.ok.inj h).symm⟩
  · rintro ⟨a, bs, hread, behind, rfl⟩
    rw [Node.readItems, hread]
    show (Node.readItems read closed rest).bind _ = _
    rw [behind]
    rfl

/-- A list is complete if its items are, since the array must have been closed. -/
theorem Takes.readList (takes : Takes read) : Takes (Node.readList read) := by
  intro n as h
  unfold Node.readList at h
  split at h
  · rename_i items closed
    rw [Node.isComplete]
    induction items generalizing as with
    | nil => exact (readItems_nil.mp h).1
    | cons m items ih =>
      obtain ⟨a, bs, hread, behind, _⟩ := readItems_cons.mp h
      rw [itemsComplete, takes m a hread, Bool.true_and]
      exact ih bs behind
  · cases h

end Takes

/-- An object is complete if all that is taken out of it is. -/
theorem Record.isComplete {σ ρ : Type} {put : σ → String → Node → Except ReadError σ}
    {fields : List (RecordField σ)} {rest : σ → ρ} {setRest : σ → ρ → σ}
    {pass : ρ → String → Node → Except ReadError ρ} {closed : Bool} {s d : σ}
    {members : List (Node × Node)}
    (record : Record put fields rest setRest pass) (takes : ∀ f ∈ fields, Takes f.read)
    (passes : ∀ r key n r', pass r key n = .ok r' → n.isComplete = true)
    (read : Node.readMembers put closed s members = .ok d) :
    (Node.object members closed).isComplete = true := by
  rw [Node.isComplete]
  induction members generalizing s with
  | nil => exact (readMembers_nil.mp read).1
  | cons m members ih =>
    obtain ⟨k, n⟩ := m
    obtain ⟨key, s', name, hput, read⟩ := readMembers_cons.mp read
    have whole : n.isComplete = true := by
      obtain ⟨held, rested⟩ := record.step hput
      by_cases mem : key ∈ keysOf fields
      · obtain ⟨f, hf, same⟩ := List.mem_map.mp mem
        have here := held f hf
        rw [if_pos same.symm] at here
        obtain ⟨_, a, hread, _⟩ := here
        exact takes f hf n a hread
      · rw [if_neg mem] at rested
        exact passes _ _ _ _ rested
    rw [membersComplete, eq_of_key?_eq_some name, whole]
    exact ih read

end TraceQuery.Json
