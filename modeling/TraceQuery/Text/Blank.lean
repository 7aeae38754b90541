/-
  White space, and cutting it off both ends of a text.

  `isBlank` is the Unicode property White_Space, all 25 characters of it, so it is wider than the four
  characters of `Char.isWhitespace` (`isBlank_of_isWhitespace`).  `trim` removes the longest
  run of blanks from either end and leaves blanks inside a text alone.

  Trimming comes before everything else that reads a text of a user: numbers, look-backs, keys of a
  JSON filter, paths, and the lines of an environment file.  The work is done on lists of characters
  (`dropBlanks`, `trimChars`), where cutting at the back is cutting at the front of the reversed list,
  so that laws need be shown for one end only.

  Mathlib-free.
-/
namespace TraceQuery.Text

/-! ## The class -/

/-- Tells whether the character has the Unicode property White_Space. -/
def isBlank (c : Char) : Bool :=
  let n := c.toNat
  (0x09 ≤ n && n ≤ 0x0d) || n == 0x20 || n == 0x85 || n == 0xa0 || n == 0x1680 ||
    (0x2000 ≤ n && n ≤ 0x200a) || n == 0x2028 || n == 0x2029 || n == 0x202f || n == 0x205f ||
    n == 0x3000

/-- Space, tab, line feed and carriage return are blanks; the other way round fails, as for the no-break space
    U+00A0. -/
theorem isBlank_of_isWhitespace {c : Char} (h : c.isWhitespace = true) : isBlank c = true := by
  simp only [Char.isWhitespace, Bool.or_eq_true, decide_eq_true_eq] at h
  rcases h with ((h | h) | h) | h <;> subst h <;> decide

/-! ## Trimming -/

/-- The characters of `cs` without the blanks at its front. -/
def dropBlanks (cs : List Char) : List Char := cs.dropWhile isBlank

/-- The characters of `cs` without the blanks at either end. -/
def trimChars (cs : List Char) : List Char :=
  (dropBlanks (dropBlanks cs).reverse).reverse

/-- A text without the blanks at either end. -/
def trim (s : String) : String := String.ofList (trimChars s.toList)

theorem dropBlanks_of_head {c : Char} {cs : List Char} (h : isBlank c = false) :
    dropBlanks (c :: cs) = c :: cs := by
  simp [dropBlanks, h]

end TraceQuery.Text
