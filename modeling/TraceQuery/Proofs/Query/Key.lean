/-
  Names of the parameters of filters.

  A filter at position `i` binds its values to names made of its key, which ends in an underscore and
  the digits of `i`: the key itself, or the key with `_key` or `_val` behind it (`NamedUnder`).  The
  column in the middle of a key can be any text, underscores and digits included, so names are told
  apart from their ends.

  1. **A key is a name** (`isName_parameterKey`), so its placeholder is recognised.
  2. **The last part** of a name, behind its last underscore, is the position or one of the two
     suffixes; with it the position is read off any name under a key (`NamedUnder.position`).
  3. **The group** is read off the first character (`NamedUnder.head?`), which also sets the names of
     filters apart from the other parameters of the program.

  Mathlib-free.
-/
import TraceQuery.Query.Basic
import TraceQuery.Sql.Template

namespace TraceQuery

open TraceQuery.Sql

/-! ## A key is a name -/

/-- A name goes on with any characters that names are made of. -/
theorem isName_append {xs ys : List Char} (hx : isName xs = true)
    (hy : ys.all isNameChar = true) : isName (xs ++ ys) = true := by
  cases xs with
  | nil => cases hx
  | cons c xs =>
    simp only [isName, Bool.and_eq_true, List.cons_append, List.all_append] at hx ⊢
    exact ⟨hx.1, hx.2, hy⟩

/-- What a column contributes to a key has only such characters, whatever the column is called. -/
theorem isNameChar_nameSafe (column : String) : (nameSafe column).toList.all isNameChar = true := by
  rw [List.all_eq_true]
  intro c hc
  rw [nameSafe, String.toList_map, List.mem_map] at hc
  obtain ⟨d, _, rfl⟩ := hc
  by_cases h : isNameChar d = true
  · rw [if_pos h]
    exact h
  · rw [if_neg h]
    decide

theorem isDigit_writeNat (n : Nat) : ∀ c ∈ (Text.writeNat n).toList, c.isDigit = true := by
  intro c hc
  rw [Text.writeNat, String.toList_ofList] at hc
  exact Nat.isDigit_of_mem_toDigits (by decide) (by decide) hc

theorem isNameChar_of_isDigit {c : Char} (h : c.isDigit = true) : isNameChar c = true := by
  have : isAsciiDigit c = true := h
  simp [isNameChar, this]

/-- Different numbers are written differently. -/
theorem writeNat_injective {m n : Nat} (h : Text.writeNat m = Text.writeNat n) : m = n := by
  -- the digits of a number are read back as the number
  have digits : Nat.toDigits 10 m = Nat.toDigits 10 n := by
    have := congrArg String.toList h
    rwa [Text.writeNat, Text.writeNat, String.toList_ofList, String.toList_ofList] at this
  rw [← Nat.ofDigitChars_ten_toDigits (n := m), digits, Nat.ofDigitChars_ten_toDigits]

/-- The key of a filter is a name, so the reader of placeholders takes all of it. -/
theorem isName_parameterKey {group : String} (hg : isName group.toList = true) (column : String)
    (index : Nat) : isName (parameterKey group column index).toList = true := by
  have underscore : "_".toList.all isNameChar = true := by decide
  simp only [parameterKey, String.toList_append]
  refine isName_append (isName_append (isName_append (isName_append hg underscore) ?_) underscore) ?_
  · -- the group begins the name, and everything behind it is made of characters of names
    exact isNameChar_nameSafe column
  · rw [List.all_eq_true]
    intro c hc
    exact isNameChar_of_isDigit (isDigit_writeNat index c hc)

/-! ## The last part of a name -/

/-- What stands behind the last underscore, read backwards. -/
def lastPart (name : String) : List Char := name.toList.reverse.takeWhile (· != '_')

/-- Behind the last underscore stands whatever holds no underscore itself. -/
theorem lastPart_append {before last : String} (h : '_' ∉ last.toList) :
    lastPart (before ++ "_" ++ last) = last.toList.reverse := by
  -- the reader from behind stops at the underscore, as there is none on its way to it
  have inside : ∀ c ∈ last.toList.reverse, (c != '_') = true := by
    intro c hc
    have : c ≠ '_' := fun e => h (e ▸ List.mem_reverse.mp hc)
    simpa using this
  have shape : (before ++ "_" ++ last).toList.reverse
      = last.toList.reverse ++ '_' :: before.toList.reverse := by simp
  rw [lastPart, shape, List.takeWhile_append_of_pos inside]
  simp

/-- The last part of a key is its position. -/
theorem lastPart_parameterKey (group column : String) (index : Nat) :
    lastPart (parameterKey group column index) = (Text.writeNat index).toList.reverse := by
  show lastPart (group ++ "_" ++ nameSafe column ++ "_" ++ Text.writeNat index) = _
  refine lastPart_append ?_
  intro h
  exact absurd (isDigit_writeNat index '_' h) (by decide)

/-! ## Names under a key -/

/-- The names that a filter may bind under its key: the key itself, or those of a pair. -/
def NamedUnder (key name : String) : Prop :=
  name = key ∨ name = boundName key "KEY" ∨ name = boundName key "VAL"

theorem lastPart_first (key : String) : lastPart (boundName key "KEY") = ['y', 'e', 'k'] :=
  lastPart_append (by decide)

theorem lastPart_second (key : String) : lastPart (boundName key "VAL") = ['l', 'a', 'v'] :=
  lastPart_append (by decide)

/-- Under one suffix, names tell keys apart. -/
theorem boundName_injective {key key' name : String} (h : boundName key name = boundName key' name) :
    key = key' := by
  have := congrArg String.toList h
  simp only [boundName, String.toList_append, List.append_assoc] at this
  exact String.toList_inj.mp (List.append_cancel_right this)

/-- A last part that has a character which is no digit is no position. -/
theorem lastPart_parameterKey_ne (group column : String) (index : Nat) {c : Char} {cs : List Char}
    (hc : c.isDigit = false) : lastPart (parameterKey group column index) ≠ c :: cs := by
  intro h
  rw [lastPart_parameterKey] at h
  have mem : c ∈ (Text.writeNat index).toList := by
    rw [← List.mem_reverse, h]
    exact List.mem_cons_self
  rw [isDigit_writeNat index c mem] at hc
  cases hc

namespace NamedUnder

variable {group group' column column' name : String} {i j : Nat}

/-- Keys tell positions apart, even across groups and columns. -/
theorem position_of_eq (h : parameterKey group column i = parameterKey group' column' j) : i = j := by
  have parts := congrArg lastPart h
  rw [lastPart_parameterKey, lastPart_parameterKey, List.reverse_inj] at parts
  exact writeNat_injective (String.toList_inj.mp parts)

/-- A name belongs to the filters of one position only. -/
theorem position (h : NamedUnder (parameterKey group column i) name)
    (h' : NamedUnder (parameterKey group' column' j) name) : i = j := by
  have first := lastPart_first (parameterKey group column i)
  have first' := lastPart_first (parameterKey group' column' j)
  have second := lastPart_second (parameterKey group column i)
  have second' := lastPart_second (parameterKey group' column' j)
  -- names of two kinds differ in their last part: digits, `key` or `val`
  rcases h with h | h | h
  · rcases h' with h' | h' | h'
    · exact position_of_eq (h.symm.trans h')
    · rw [← h', h] at first'
      exact absurd first' (lastPart_parameterKey_ne _ _ _ (by decide))
    · rw [← h', h] at second'
      exact absurd second' (lastPart_parameterKey_ne _ _ _ (by decide))
  · rcases h' with h' | h' | h'
    · rw [← h, h'] at first
      exact absurd first (lastPart_parameterKey_ne _ _ _ (by decide))
    · exact position_of_eq (boundName_injective (h.symm.trans h'))
    · rw [← h, h', second'] at first
      exact absurd first (by decide)
  · rcases h' with h' | h' | h'
    · rw [← h, h'] at second
      exact absurd second (lastPart_parameterKey_ne _ _ _ (by decide))
    · rw [← h, h', first'] at second
      exact absurd second (by decide)
    · exact position_of_eq (boundName_injective (h.symm.trans h'))

/-- A name under a key begins as the group does. -/
theorem head? {c : Char} {cs : List Char} (hg : group.toList = c :: cs)
    (h : NamedUnder (parameterKey group column i) name) : name.toList.head? = some c := by
  have key : (parameterKey group column i).toList.head? = some c := by
    simp [parameterKey, hg]
  have behind (suffix : String) :
      (boundName (parameterKey group column i) suffix).toList.head? = some c := by
    simp [boundName, key]
  rcases h with rfl | rfl | rfl
  · exact key
  · exact behind "KEY"
  · exact behind "VAL"

end NamedUnder

end TraceQuery
