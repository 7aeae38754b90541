/-
  The parameters of a query: names with their values, in ascending order of the names.

  1. **Order**: the entries ascend by name (`Parameters.ordered`), in the order of code points, so
     two maps with the same entries are equal and their text is the same.
  2. **Binding**: a name gets its value once.  Binding it again to the same value changes nothing,
     to another value is a collision (`Parameters.bind`).
  3. **Many bindings** are made one after another; the first collision ends them, and what was bound
     before it stays (`Parameters.extend` gives both the map and the error).

  The order is a field of the structure, and `insertBinding` is the only way to add an entry, so no later
  proof has to show it again (`ascending_insertBinding`).  `bindAll` is `extend` for those who do not
  look at a map that a collision has left half made.

  Mathlib-free.
-/
import TraceQuery.Query.Error
import TraceQuery.Query.Param

namespace TraceQuery

/-! ## Entries in order -/

/-- A name with its value. -/
abbrev Binding := String × ParamValue

/-- Entries ascend strictly by name. -/
def Ascending (entries : List Binding) : Prop := entries.Pairwise fun a b => a.1 < b.1

/-- Puts a new entry in its place; an entry of that name stays. -/
def insertBinding (name : String) (value : ParamValue) : List Binding → List Binding
  | [] => [(name, value)]
  | (n, v) :: rest =>
    if name < n then (name, value) :: (n, v) :: rest
    else if n < name then (n, v) :: insertBinding name value rest
    else (n, v) :: rest

/-- What is there after an insertion was there before, or is the new entry. -/
theorem mem_of_mem_insertBinding {name : String} {value : ParamValue} {entries : List Binding}
    {b : Binding} (h : b ∈ insertBinding name value entries) : b = (name, value) ∨ b ∈ entries := by
  induction entries with
  | nil => simpa [insertBinding] using h
  | cons e rest ih =>
    obtain ⟨n, v⟩ := e
    simp only [insertBinding] at h
    split at h
    · simpa using h
    · split at h
      · rcases List.mem_cons.mp h with h | h
        · exact .inr (by simp [h])
        · exact (ih h).imp_right (List.mem_cons_of_mem _)
      · exact .inr h

/-- An insertion keeps the order, and keeps it strict: a name that is there already stays with its value. -/
theorem ascending_insertBinding {name : String} {value : ParamValue} {entries : List Binding}
    (h : Ascending entries) : Ascending (insertBinding name value entries) := by
  induction entries with
  | nil => simp [insertBinding, Ascending]
  | cons e rest ih =>
    obtain ⟨n, v⟩ := e
    have he := List.pairwise_cons.mp h
    simp only [insertBinding]
    split
    · rename_i lt
      refine List.pairwise_cons.mpr ⟨fun b hb => ?_, h⟩
      rcases List.mem_cons.mp hb with rfl | hb
      · exact lt
      · exact String.lt_trans lt (he.1 b hb)
    · split
      · rename_i gt
        refine List.pairwise_cons.mpr ⟨fun b hb => ?_, ih he.2⟩
        -- behind an entry that stays in front come the new one and those that were there
        rcases mem_of_mem_insertBinding hb with rfl | hb
        · exact gt
        · exact he.1 b hb
      · exact h

/-! ## The map -/

/-- Names with their values, in ascending order of the names. -/
structure Parameters where
  entries : List Binding
  ordered : Ascending entries

namespace Parameters

/-- No parameters. -/
def empty : Parameters := ⟨[], List.Pairwise.nil⟩

/-- Parameters are their entries; the order is no data. -/
@[ext] theorem ext {p q : Parameters} (h : p.entries = q.entries) : p = q := by
  cases p; cases q; simpa using h

/-- The names, in ascending order. -/
def names (p : Parameters) : List String := p.entries.map Prod.fst

/-- The value of a name. -/
def find? (p : Parameters) (name : String) : Option ParamValue :=
  (p.entries.find? fun b => b.1 == name).map Prod.snd

/-- Tells whether the name has a value. -/
def contains (p : Parameters) (name : String) : Bool := p.names.contains name

/-- How many names have a value. -/
def size (p : Parameters) : Nat := p.entries.length

/-- Tells whether no name has a value. -/
def isEmpty (p : Parameters) : Bool := p.entries.isEmpty

/-- The map with one more entry; an entry of that name stays. -/
def insert (p : Parameters) (name : String) (value : ParamValue) : Parameters :=
  ⟨insertBinding name value p.entries, ascending_insertBinding p.ordered⟩

/-! ## Binding -/

/-- Binds a name that has no value yet; the same value again is no change. -/
def bind (p : Parameters) (name : String) (value : ParamValue) : Except QueryError Parameters :=
  match p.find? name with
  | none => .ok (p.insert name value)
  | some old => if old.same value then .ok p else .error (.parameterCollision name)

/-- Binds one after another up to the first collision: the map reached, and the collision. -/
def extend (p : Parameters) : List Binding → Parameters × Option QueryError
  | [] => (p, none)
  | (name, value) :: rest =>
    match p.bind name value with
    | .ok q => q.extend rest
    | .error e => (p, some e)

/-- Binds the entries of another map, in its order. -/
def merge (p q : Parameters) : Parameters × Option QueryError := p.extend q.entries

/-- Binds all, or fails with the first collision. -/
def bindAll (p : Parameters) (bindings : List Binding) : Except QueryError Parameters :=
  match p.extend bindings with
  | (q, none) => .ok q
  | (_, some e) => .error e

@[simp] theorem bindAll_nil (p : Parameters) : p.bindAll [] = .ok p := rfl

/-- Of several bindings the first is made first, and a collision there ends it. -/
theorem bindAll_cons (p : Parameters) (name : String) (value : ParamValue) (rest : List Binding) :
    p.bindAll ((name, value) :: rest) = (p.bind name value).bind fun q => q.bindAll rest := by
  simp only [bindAll, extend]
  cases p.bind name value <;> rfl

end Parameters

end TraceQuery
