/-
  A tree of files in memory, looked up by path.

  1. **Status**: what a program finds at a path is nothing, something that it cannot read, or a text
     (`FileStatus`).  Each failure has the words of the operating system.
  2. **Looking up** (`FileTree.status`) follows the names of a path one after another, from the root or
     from the working directory.  An empty name and `.` stay, `..` goes up, and only a directory has
     something below it, so a slash at the end asks for a directory.

  There are no links in the tree, so going up and then down again leads back to the same place, and
  there are no rights, so whatever is there and is a file can be read.

  Mathlib-free.
-/
import TraceQuery.Files.Path

namespace TraceQuery.Files

/-! ## Status -/

/-- What a program finds at a path.  Only `missing` counts as absence; a file that cannot be read is there. -/
inductive FileStatus where
  | missing (reason : String)
  | unreadable (reason : String)
  | text (content : String)
deriving DecidableEq, Repr

/-- The system's words for its failures. -/
def noSuchFile : String := "No such file or directory (os error 2)"

/-- A file stands where the path goes on. -/
def notADirectory : String := "Not a directory (os error 20)"

/-- The path ends at a directory, which has no text. -/
def isADirectory : String := "Is a directory (os error 21)"

/-- A name of the path, or the path itself, is beyond the system's bounds. -/
def nameTooLong : String := "File name too long (os error 36)"

/-- Tells whether there is something at the path. -/
def FileStatus.exists : FileStatus → Bool
  | missing _ => false
  | _ => true

/-- The text of a file, or why there is none. -/
def FileStatus.read : FileStatus → Except String String
  | missing reason => .error reason
  | unreadable reason => .error reason
  | text content => .ok content

/-! ## The tree -/

/-- The names of a path; slashes separate them. -/
def splitNames : List Char → List (List Char)
  | [] => [[]]
  | c :: rest =>
    if c = '/' then [] :: splitNames rest
    else match splitNames rest with
      | [] => [[c]]
      | name :: names => (c :: name) :: names

/-- The names from the root down to a place in the tree. -/
abbrev Route := List (List Char)

/-- Files with their texts and directories without; every directory above one of them is there. -/
structure FileTree where
  entries : List (Route × Option String)

namespace FileTree

/-- The names that matter: neither empty nor a dot. -/
def routeOf (path : String) : Route :=
  (splitNames path.toList).filter fun name => !name.isEmpty && name != ['.']

/-- Adds what a directory holds: file names relative to it with their texts, where a name that ends
    in a slash is a directory. -/
def add (tree : FileTree) (directory : String) (files : List (String × String)) : FileTree :=
  ⟨tree.entries ++ (routeOf directory, none) ::
    files.map fun (name, content) =>
      (routeOf directory ++ routeOf name,
        if name.toList.getLast? == some '/' then none else some content)⟩

/-- The text of the file at a place. -/
def file? (tree : FileTree) (route : Route) : Option String :=
  tree.entries.findSome? fun (r, content) => if r == route then content else none

/-- Tells whether there is a directory at a place. -/
def hasDirectory (tree : FileTree) (route : Route) : Bool :=
  route.isEmpty || tree.entries.any fun (r, content) =>
    route.isPrefixOf r && (route.length < r.length || content.isNone)

/-- The longest name that the system takes. -/
def maxNameBytes : Nat := 255

/-- The longest path that the system takes. -/
def maxPathBytes : Nat := 4095

/-- Follows names from a directory of the tree. -/
def follow (tree : FileTree) (place : Route) : Route → FileStatus
  | [] => .unreadable isADirectory
  | name :: rest =>
    if name.isEmpty || name == ['.'] then follow tree place rest
    else if name == ['.', '.'] then follow tree place.dropLast rest
    else
      let next := place ++ [name]
      -- a file ends the path, and a slash behind it makes it the wrong sort of thing
      match tree.file? next with
      | some content => if rest.isEmpty then .text content else .missing notADirectory
      | none =>
        if tree.hasDirectory next then follow tree next rest
        else if maxNameBytes < (String.ofList name).utf8ByteSize then .missing nameTooLong
        else .missing noSuchFile

/-- What is found at a path, seen from a working directory. -/
def status (tree : FileTree) (directory path : String) : FileStatus :=
  if path.isEmpty then .missing noSuchFile
  else if maxPathBytes < path.utf8ByteSize then .missing nameTooLong
  else
    let start := if isAbsolute path.toList then [] else routeOf directory
    tree.follow start (splitNames path.toList)

end FileTree

end TraceQuery.Files
