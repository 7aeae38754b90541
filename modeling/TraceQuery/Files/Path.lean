/-
  File paths as texts.

  A path is absolute if it begins with a slash.  `joinPath` puts a path behind another one, with one
  slash between them unless there is one already; an absolute path replaces what it is joined to.
  `expandPath` makes the path that a user writes absolute: blanks around it go away, `~` and what
  begins with `~/` stand in the home directory, and any other relative path in the working directory.
  Nothing else is tidied up.  `ancestors` are a directory and those above it.

  Mathlib-free.
-/
import TraceQuery.Text.Blank

namespace TraceQuery.Files

/-- A path is absolute if it begins with a slash. -/
def isAbsolute : List Char → Bool
  | '/' :: _ => true
  | _ => false

/-- A path behind another one, on characters. -/
def joinChars (base path : List Char) : List Char :=
  -- an absolute path is not put behind anything; it takes over
  if isAbsolute path then path
  else if base.isEmpty || base.getLast? == some '/' then base ++ path
  else base ++ '/' :: path

/-- A path behind another one. -/
def joinPath (base path : String) : String := String.ofList (joinChars base.toList path.toList)

/-- The path that begins in the home directory, if it is written with a tilde. -/
def expandHome (home path : List Char) : List Char :=
  match path with
  -- only a tilde that is a whole name counts, so that of another user is left alone
  | ['~'] => home
  | '~' :: '/' :: rest => joinChars home rest
  | _ => path

/-- The absolute path that a user means, on characters. -/
def expandChars (home directory path : List Char) : List Char :=
  let path := expandHome home (Text.trimChars path)
  if isAbsolute path then path else joinChars directory path

/-- The absolute path that a user means. -/
def expandPath (home directory path : String) : String :=
  String.ofList (expandChars home.toList directory.toList path.toList)

/-! ## Directories above -/

/-- What comes before each slash of a path, the longest first. -/
def beforeSlashes : List Char → List (List Char)
  | [] => []
  | c :: rest =>
    let deeper := (beforeSlashes rest).map (c :: ·)
    if c = '/' then deeper ++ [[]] else deeper

/-- A directory, given by an absolute path, and the directories above it up to the root. -/
def ancestors (directory : String) : List String :=
  directory :: (beforeSlashes directory.toList).map fun cs =>
    if cs.isEmpty then "/" else String.ofList cs

example : ancestors "/a/b" = ["/a/b", "/a", "/"] := by cbv

/-! ## Laws -/

/-- What begins with a slash still does when more comes behind it. -/
theorem isAbsolute_append {base : List Char} (h : isAbsolute base = true) (path : List Char) :
    isAbsolute (base ++ path) = true := by
  unfold isAbsolute at h
  split at h
  · rfl
  · simp at h

/-- A path behind an absolute one is absolute, whichever way the two are joined. -/
theorem isAbsolute_joinChars {base : List Char} (h : isAbsolute base = true) (path : List Char) :
    isAbsolute (joinChars base path) = true := by
  unfold joinChars
  split
  · assumption
  · split <;> exact isAbsolute_append h _

end TraceQuery.Files
