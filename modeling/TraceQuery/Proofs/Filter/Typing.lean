/-
  The values of filters have the types of their placeholders.

  One half of a filter writes a type into the condition, the other half reads the value.

  1. **Types** (`ColumnType.admits`): of all types five have values, and these have one shape each.
  2. **Slots**: a placeholder together with a value that its type admits (`Slot`).  A condition is filled
     (`Condition.Filled`) if its placeholders and its bindings are those of one list of slots, in one
     order; so no placeholder is without a value and no value without a placeholder.
  3. **Reading**: what is read as a number is a number of the type (`NumericType.admits_coerce`).
  4. **Filters** (`ColumnFilter.filled`): the condition of a filter that is kept is filled.

  Mathlib-free.
-/
import TraceQuery.Proofs.Filter.Agreement

namespace TraceQuery

open TraceQuery.Sql

/-! ## Types -/

/-- Tells whether a value can stand for a placeholder of a type. -/
def Sql.ColumnType.admits : ColumnType → ParamValue → Bool
  | .string, .string _ => true
  | .uuid, .string _ => true
  | .int64, .int n => fitsInteger n
  | .float64, .float (.finite _) => true
  | .array .uuid, .strings _ => true
  | _, _ => false

/-- The names of the parameters that count: rows, rows passed over, and hours. -/
def countNames : List String := ["limit", "offset", "pastHours"]

/-- Tells whether a value is a count. -/
def ParamValue.isCount : ParamValue → Bool
  | int n => 0 ≤ n
  | _ => false

/-! ## Slots -/

/-- A placeholder and the value that stands for it. -/
structure Slot where
  name : String
  type : ColumnType
  value : ParamValue
  admitted : type.admits value = true
  counted : name ∈ countNames → value.isCount = true

namespace Slot

/-- The placeholder of a slot. -/
def placeholder (s : Slot) : Placeholder := ⟨s.name, s.type.text⟩

/-- The binding of a slot. -/
def binding (s : Slot) : Binding := (s.name, s.value)

/-- A slot of a name that does not count. -/
def ofName (name : String) (type : ColumnType) (value : ParamValue)
    (admitted : type.admits value = true) (apart : name ∉ countNames) : Slot :=
  ⟨name, type, value, admitted, fun counts => absurd counts apart⟩

end Slot

/-- The placeholders and the bindings of a condition are those of the same slots. -/
def Condition.Filled (c : Condition) : Prop :=
  ∃ slots : List Slot, Reads c.text (slots.map Slot.placeholder) ∧ c.bindings = slots.map Slot.binding

/-- What a filled condition binds is bound in the order in which its text refers to it. -/
theorem Condition.Filled.agrees {c : Condition} (h : c.Filled) : c.Agrees := by
  obtain ⟨slots, reads, bound⟩ := h
  refine ⟨_, reads, ?_⟩
  rw [bound, List.map_map, List.map_map]
  rfl

/-! ## Reading -/

theorem fitsInteger_iff {n : Int} :
    fitsInteger n = true ↔ -Int.ofNat (Text.maxInteger + 1) ≤ n ∧ n ≤ Int.ofNat Text.maxInteger := by
  simp [fitsInteger]

/-- A count up to the greater bound is an integer of 64 bits. -/
theorem fitsInteger_ofNat {n : Nat} (h : n ≤ Text.maxInteger) : fitsInteger (Int.ofNat n) = true := by
  refine fitsInteger_iff.mpr ⟨?_, Int.ofNat_le.mpr h⟩
  simp only [Int.ofNat_eq_natCast]
  omega

namespace Text

/-- What is read from digits is made of a number within the limit. -/
theorem exists_of_readDigits {α : Type} {limit : Nat} {excess : NumeralFault} {digits : List Char}
    {f : Nat → α} {a : α} (h : (readDigits limit excess 0 digits).map f = .ok a) :
    ∃ n, n ≤ limit ∧ f n = a := by
  cases read : readDigits limit excess 0 digits with
  | error e =>
    rw [read] at h
    cases h
  | ok n =>
    rw [read] at h
    exact ⟨n, readDigits_le (Nat.zero_le limit) read, Except.ok.inj h⟩

/-- What is read as an integer is within the bounds. -/
theorem readInt_bounds {below above : Nat} {cs : List Char} {n : Int}
    (h : readInt below above cs = .ok n) : -Int.ofNat below ≤ n ∧ n ≤ Int.ofNat above := by
  have upward {m : Nat} (bound : m ≤ above) :
      -Int.ofNat below ≤ Int.ofNat m ∧ Int.ofNat m ≤ Int.ofNat above := by
    simp only [Int.ofNat_eq_natCast]
    omega
  have downward {m : Nat} (bound : m ≤ below) :
      -Int.ofNat below ≤ -Int.ofNat m ∧ -Int.ofNat m ≤ Int.ofNat above := by
    simp only [Int.ofNat_eq_natCast]
    omega
  -- no characters, a sign alone, or digits with one of three signs
  unfold readInt at h
  split at h
  · cases h
  · cases h
  · cases h
  · obtain ⟨m, bound, rfl⟩ := exists_of_readDigits h
    exact upward bound
  · obtain ⟨m, bound, rfl⟩ := exists_of_readDigits h
    exact downward bound
  · obtain ⟨m, bound, rfl⟩ := exists_of_readDigits h
    exact upward bound

/-- What is read as a natural number is within the limit. -/
theorem readNat_le {limit : Nat} {cs : List Char} {n : Nat} (h : readNat limit cs = .ok n) :
    n ≤ limit := by
  unfold readNat at h
  split at h
  · cases h
  · cases h
  · exact readDigits_le (Nat.zero_le limit) h
  · exact readDigits_le (Nat.zero_le limit) h

end Text

/-- What a double is cut to has been asked whether it fits. -/
theorem FilterValue.fits_truncated {v : FilterValue} {n : Int} (h : v.truncated? = some n) :
    fitsInteger n = true := by
  obtain ⟨x, _, cut⟩ := Option.bind_eq_some_iff.mp h
  split at cut
  · rename_i fits
    rw [← Option.some.inj cut]
    exact fits
  · cases cut

/-- Every integer that a value is read as fits, whether it was read exactly or from a double. -/
theorem FilterValue.fits_toInteger {v : FilterValue} {n : Int} (h : v.toInteger? = some n) :
    fitsInteger n = true := by
  cases v with
  | number d => exact fits_truncated h
  | text s =>
    simp only [toInteger?] at h
    split at h
    · rename_i read
      rw [← Option.some.inj h]
      exact fitsInteger_iff.mpr (Text.readInt_bounds read)
    · exact fits_truncated h

/-- A number that is read for a type is one of the type. -/
theorem Sql.NumericType.admits_coerce {type : NumericType} {v : FilterValue} {value : ParamValue}
    (h : type.coerce v = some value) : type.columnType.admits value = true := by
  cases type with
  | float64 =>
    obtain ⟨x, _, rfl⟩ := Option.map_eq_some_iff.mp h
    rfl
  | int64 =>
    obtain ⟨n, read, rfl⟩ := Option.map_eq_some_iff.mp h
    exact FilterValue.fits_toInteger read

/-- The types of single values that can be bound. -/
def scalarTypes : List ColumnType := [.string, .uuid, .float64, .int64]

/-- A member that is looked for is one of the type of the elements. -/
theorem admits_memberValue {element : ColumnType} (he : element ∈ scalarTypes) {v : FilterValue}
    {value : ParamValue} (h : memberValue? element v = some value) : element.admits value = true := by
  have scalar : element = .string ∨ element = .uuid ∨ element = .float64 ∨ element = .int64 := by
    simpa [scalarTypes] using he
  rcases scalar with rfl | rfl | rfl | rfl
  · rw [← Option.some.inj h]
    rfl
  · rw [← Option.some.inj h]
    rfl
  · have read : NumericType.float64.coerce v = some value := h
    exact NumericType.admits_coerce read
  · have read : NumericType.int64.coerce v = some value := h
    exact NumericType.admits_coerce read

/-! ## Filters -/

namespace ColumnFilter

variable {c : ColumnFilter} {f : Filter} {key : String}

/-- The elements of an array column are single values. -/
def Scalar : ColumnFilter → Prop
  | array _ element => element ∈ scalarTypes
  | _ => True

/-- Whether elements are single values is seen from their type. -/
instance : DecidablePred Scalar
  | array _ element => inferInstanceAs (Decidable (element ∈ scalarTypes))
  | string _ => isTrue trivial
  | number _ _ => isTrue trivial
  | status _ => isTrue trivial
  | keyValue _ => isTrue trivial
  | aggregate _ => isTrue trivial
  | custom _ _ => isTrue trivial

/-- A filter over a column that refers to nothing and whose values have a type. -/
structure Typed (c : ColumnFilter) : Prop where
  silent : c.Silent
  scalar : c.Scalar

/-- A filter that is kept has a value for each of its placeholders. -/
theorem exists_slots (typed : c.Typed) (kept : c.keeps f.value = true)
    (apart : ∀ n, NamedUnder key n → n ∉ countNames) :
    ∃ slots : List Slot, slots.map Slot.placeholder = c.placeholders f key ∧
      slots.map Slot.binding = c.boundValues f key := by
  have own : key ∉ countNames := apart key (.inl rfl)
  cases c with
  | string sql =>
    simp only [boundValues]
    split
    · exact ⟨[.ofName key .string _ rfl own], rfl, rfl⟩
    · exact ⟨[.ofName key .string _ rfl own], rfl, rfl⟩
    · exact ⟨[.ofName key .string _ rfl own], rfl, rfl⟩
  -- the value that is bound is the one that decided to keep the filter
  | number sql type =>
    obtain ⟨v, read⟩ := Option.isSome_iff_exists.mp kept
    refine ⟨[.ofName key type.columnType v (NumericType.admits_coerce read) own], rfl, ?_⟩
    simp only [boundValues, read]
    rfl
  | array sql element =>
    obtain ⟨v, read⟩ := Option.isSome_iff_exists.mp kept
    refine ⟨[.ofName key element v (admits_memberValue typed.scalar read) own], rfl, ?_⟩
    simp only [boundValues, read]
    rfl
  | status sql =>
    simp only [boundValues, placeholders]
    cases f.value.statusAlias? with
    -- an outcome stands in the condition itself
    | some outcome => exact ⟨[], rfl, rfl⟩
    | none => exact ⟨[.ofName key .string _ rfl own], rfl, rfl⟩
  | keyValue sql =>
    obtain ⟨⟨k, v⟩, read⟩ := Option.isSome_iff_exists.mp kept
    have first : boundName key "KEY" ∉ countNames := apart _ (.inr (.inl rfl))
    have second : boundName key "VAL" ∉ countNames := apart _ (.inr (.inr rfl))
    refine ⟨[.ofName _ .string (.string k) rfl first, .ofName _ .string (.string v) rfl second],
      rfl, ?_⟩
    simp only [boundValues, read]
    rfl
  | aggregate sql =>
    obtain ⟨x, read⟩ := Option.isSome_iff_exists.mp kept
    refine ⟨[.ofName key .float64 (.float (.finite x)) rfl own], rfl, ?_⟩
    simp only [boundValues, read]
    rfl
  | custom condition values => exact typed.silent.elim

/-- The condition of a filter that is kept is filled. -/
theorem filled (typed : c.Typed) (hk : isName key.toList = true)
    (apart : ∀ n, NamedUnder key n → n ∉ countNames) {cond : Condition}
    (h : c.apply f key = .ok (some cond)) : cond.Filled := by
  obtain ⟨symbol, hs, kept, rfl⟩ := (apply_eq_some typed.silent.own).mp h
  obtain ⟨slots, refs, bound⟩ := exists_slots typed kept apart
  obtain ⟨sql, columnSql, column⟩ := typed.silent.column
  -- the same slots stand for what the text refers to and for what is bound
  have reads := reads_written columnSql column hk (mem_operatorTexts hs) f
  exact ⟨slots, refs ▸ reads, bound.symm⟩

end ColumnFilter

end TraceQuery
