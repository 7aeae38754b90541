/-
  Words of a command line.

  A word is `--` alone, which ends the options; a long option, `--name` or `--name=value`; a cluster
  of short options, a dash and at least one letter; or plain text.  A dash alone is plain text.

  What a word is depends on nothing but the word.  Whether a name is known, and whether a short option
  takes the rest of its cluster as its value, is decided by the level that takes the word.

  Mathlib-free.
-/
namespace TraceQuery.CommandLine

/-- What a word is by its looks alone, before anything is known about which options there are. -/
inductive Word where
  | endOfOptions
  | long (name : String) (value : Option String)
  | short (letters : List Char)
  | plain (text : String)
deriving DecidableEq, Repr

/-- The text before the first equals sign, and the text after it if there is one. -/
def splitValue : List Char → List Char × Option (List Char)
  | [] => ([], none)
  | '=' :: value => ([], some value)
  | c :: rest =>
    let (name, value) := splitValue rest
    (c :: name, value)

/-- What a word is while options are still possible. -/
def Word.ofText (text : String) : Word :=
  match text.toList with
  | ['-', '-'] => .endOfOptions
  | '-' :: '-' :: rest =>
    let (name, value) := splitValue rest
    .long (String.ofList name) (value.map String.ofList)
  | '-' :: c :: rest => .short (c :: rest)
  | _ => .plain text

example : Word.ofText "--name=a=b" = .long "name" (some "a=b") := by cbv
example : Word.ofText "--name" = .long "name" none := by cbv
example : Word.ofText "-" = .plain "-" := by cbv

end TraceQuery.CommandLine
