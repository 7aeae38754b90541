/-
  Placeholders of filters are recognised wherever they stand.

  A filter names its value in one place, from a column of any name, and the finished query is searched for
  names in another.  The two agree:

  1. **Context** (`Placeholder.WellFormed.references_around`): a placeholder begins with a brace, which goes
     on with nothing that stands in front of it, and it ends with one, behind which a text is read as if it
     stood alone.  So only the quotes in front of it matter, and these are closed.
  2. **Types** (`ColumnType.text_injective`): a type has one name, however deep its arrays are; an array is
     told from the others by its first character, and its element stands between the parentheses.
  3. **One placeholder** (`eq_of_placeholder`): neither a key nor the name of a type holds a colon, so both
     are read off the text.

  Mathlib-free.
-/
import TraceQuery.Proofs.Query.Binding
import TraceQuery.Proofs.Query.Key
import TraceQuery.Proofs.Sql.Spans

namespace TraceQuery

namespace Sql

/-! ## Context -/

/-- Between a balanced text and any other one a placeholder is met, and nothing else changes. -/
theorem Placeholder.WellFormed.references_around {p : Placeholder} (h : p.WellFormed) {a : String}
    (ha : Balanced a) (b : String) :
    references (a ++ p.text ++ b) = references a ++ p :: references b := by
  obtain ⟨balanced, same⟩ := h.shown
  -- the text in front closes its quotes, so the placeholder stands outside, and so does what follows
  have shown : blankChars .outside (a ++ p.text ++ b).toList
      = blankChars .outside a.toList ++ (p.text.toList ++ blankChars .outside b.toList) := by
    rw [String.append_assoc, ha.blank_append, balanced.blank_append, same]
  rw [references_eq, shown, pieces_append (p.closes_append _), pieces_placeholder h,
    List.filterMap_append, ← references_eq]
  show _ ++ p :: List.filterMap _ _ = _
  rw [← references_eq]

/-! ## Types -/

/-- Only arrays begin with this letter. -/
theorem ColumnType.head_text (type : ColumnType) :
    type.text.toList.head? = some 'A' ↔ ∃ element, type = .array element := by
  cases type with
  | array element => simp [text]
  | _ => simp [text]

/-- A type is told by its name. -/
theorem ColumnType.text_injective : Function.Injective ColumnType.text := by
  intro type
  -- on the depth of the array; at the bottom the names are compared one with another
  induction type with
  | array element ih =>
    intro type' same
    obtain ⟨element', rfl⟩ : ∃ element', type' = .array element' := by
      rw [← head_text, ← same, head_text]
      exact ⟨element, rfl⟩
    have inside : element.text = element'.text := by
      have := congrArg String.toList same
      simp only [text, String.toList_append, List.append_assoc] at this
      exact String.toList_inj.mp (List.append_cancel_right (List.append_cancel_left this))
    rw [ih inside]
  | _ =>
    intro type' same
    cases type' with
    | array element' =>
      have head := (head_text (.array element')).mpr ⟨element', rfl⟩
      rw [← same] at head
      exact absurd head (by decide)
    | _ => revert same; decide

theorem ColumnType.colon_not_mem_text (type : ColumnType) : ':' ∉ type.text.toList := by
  intro colon
  exact absurd (List.all_eq_true.mp type.text_ok.1 ':' colon) (by decide)

/-! ## One placeholder -/

/-- The text of a placeholder with a name that holds no colon belongs to no other name and type. -/
theorem eq_of_placeholder {name name' : String} {type type' : ColumnType}
    (bare : ':' ∉ name.toList) (same : placeholder name' type' = placeholder name type) :
    name' = name ∧ type' = type := by
  have inside : name'.toList ++ ':' :: (type'.text.toList ++ [closeBrace])
      = name.toList ++ ':' :: (type.text.toList ++ [closeBrace]) := by
    have := congrArg String.toList same
    rw [placeholder, placeholder, Placeholder.toList_text, Placeholder.toList_text] at this
    exact (List.cons.inj this).2
  have behind : ':' ∉ type.text.toList ++ [closeBrace] := by
    rw [List.mem_append, not_or]
    exact ⟨type.colon_not_mem_text, by decide⟩
  -- there is one colon on the right, so the colons of both sides are in one place
  have names : name' = name := by
    rcases List.append_eq_append_iff.mp inside with ⟨cs, front, rest⟩ | ⟨cs, front, rest⟩
    · cases cs with
      | nil => exact String.toList_inj.mp (by simpa using front.symm)
      | cons c cs =>
        rw [List.cons_append, List.cons.injEq] at rest
        exact absurd (front ▸ rest.1 ▸ by simp) bare
    · cases cs with
      | nil => exact String.toList_inj.mp (by simpa using front)
      | cons c cs =>
        rw [List.cons_append, List.cons.injEq] at rest
        exact absurd (rest.2 ▸ by simp) behind
  subst names
  have types := (List.cons.inj (List.append_cancel_left inside)).2
  exact ⟨rfl, ColumnType.text_injective (String.toList_inj.mp (List.append_cancel_right types))⟩

end Sql

open TraceQuery.Sql

/-! ## Keys -/

theorem colon_not_mem_of_isName {name : String} (h : isName name.toList = true) : ':' ∉ name.toList := by
  intro colon
  exact absurd (isNameChar_of_isName h ':' colon) (by decide)

/-- A filter on a column of any name, at any position of either group, has a key that is the name of a
    placeholder.  With a type of any depth this placeholder is met between any balanced text and any other
    text, beside what the two refer to where they stand alone; and its text is that of no other name or
    type. -/
theorem filterPlaceholder_recognised {group : String} (hg : group = "filter" ∨ group = "having") (column : String)
    (index : Nat) (type : ColumnType) :
    let name := parameterKey group column index
    isName name.toList = true ∧
    (∀ a b : String, Balanced a →
      references (a ++ placeholder name type ++ b)
        = references a ++ ⟨name, type.text⟩ :: references b ∧
      placeholderNames (a ++ placeholder name type ++ b)
        = nameSet (placeholderNames a ++ name :: placeholderNames b)) ∧
    ∀ name' type', placeholder name' type' = placeholder name type → name' = name ∧ type' = type := by
  intro name
  have named : isName name.toList = true := by
    refine isName_parameterKey ?_ column index
    rcases hg with rfl | rfl <;> decide
  refine ⟨named, fun a b balanced => ?_, fun _ _ => eq_of_placeholder (colon_not_mem_of_isName named)⟩
  have met := (wellFormed_placeholder named type).references_around balanced b
  refine ⟨met, ?_⟩
  -- both sides ascend, so the same names are the same list
  refine @eq_of_ascending _ id _ _ (pairwise_nameSet _) (pairwise_nameSet _) fun n => ?_
  rw [mem_placeholderNames, placeholder, met, mem_nameSet]
  simp [mem_placeholderNames]

/-- A column whose id is itself a placeholder, and an array of arrays, behind a placeholder that is never
    closed and in front of one that is never opened. -/
theorem filterPlaceholder_recognised_nested :
    let name := parameterKey "having" "\x7bscore:Int64\x7d" 10
    let a := "f('\\'\x7b', \x7bp:UUID\x7d) + \x7bq:"
    let b := "Int64\x7d '\x7br:Int64\x7d"
    Balanced a ∧ placeholderNames (a ++ placeholder name (.array (.array .uint64)) ++ b)
      = [name, "p"] := by
  intro name a b
  have balanced : Balanced a := by decide
  obtain ⟨_, met, _⟩ := filterPlaceholder_recognised (.inr rfl) "\x7bscore:Int64\x7d" 10 (.array (.array .uint64))
  refine ⟨balanced, ?_⟩
  rw [(met a b balanced).2]
  decide +kernel

end TraceQuery
