/-
  What can stand on a command line, and why a command line gives no command.

  1. **Settings** are options of the program.  They may stand before or after the command, and the
     environment can set them too.
  2. **Levels**: the words up to the command belong to the program, the words after it to the command.
     Each level has its own options (`Level.long?`, `Level.short?`).
  3. **Values** are read when they are taken in (`Given.put`): a path, which is not empty, a count, or
     the kind of a query.  At one level an argument is given once at most.

  Mathlib-free.
-/
import TraceQuery.Request.Kind

namespace TraceQuery.CommandLine

open TraceQuery.Text (NumeralFault readCount)

/-! ## Arguments -/

/-- The options that hold for a whole run. -/
inductive Setting where
  | config
  | defaultPageSize
  | maxPageSize
  | maxFilters
deriving DecidableEq, Repr

namespace Setting

/-- The settings, in the order in which the environment is asked for them. -/
def all : List Setting := [config, defaultPageSize, maxPageSize, maxFilters]

/-- The long name of the option. -/
def name : Setting → String
  | config => "config"
  | defaultPageSize => "default-page-size"
  | maxPageSize => "max-page-size"
  | maxFilters => "max-filters"

/-- The name in the environment of the value that holds where the option is not given. -/
def environmentName : Setting → String
  | config => "TRACELENS_CONFIG"
  | defaultPageSize => "TRACELENS_DEFAULT_PAGE_SIZE"
  | maxPageSize => "TRACELENS_MAX_PAGE_SIZE"
  | maxFilters => "TRACELENS_MAX_FILTERS"

end Setting

/-- What a word of the command line can be about. -/
inductive Argument where
  | setting (s : Setting)
  | request
  | kind
  | pretty
  | help
  | version
deriving DecidableEq, Repr

namespace Argument

/-- Tells whether the argument stands with a value. -/
def takesValue : Argument → Bool
  | setting _ | request | kind => true
  | pretty | help | version => false

/-- How messages call the argument. -/
def text : Argument → String
  | setting s => "--" ++ s.name
  | request => "--request"
  | kind => "<KIND>"
  | pretty => "--pretty"
  | help => "--help"
  | version => "--version"

end Argument

/-! ## Why there is no command -/

/-- What is wrong with a value. -/
inductive ValueFault where
  | number (fault : NumeralFault)
  | kind (text : String)
deriving DecidableEq, Repr

/-- The message; for a kind it lists those there are. -/
def ValueFault.message : ValueFault → String
  | number fault => fault.message
  | kind text =>
    "Invalid query kind '" ++ text ++ "'. Valid options: " ++
      ", ".intercalate (QueryKind.all.map QueryKind.name)

/-- Why a command line gives no command. -/
inductive NoCommand where
  | helpAsked
  | versionAsked
  /-- Nothing at all is given. -/
  | nothingGiven
  | missingCommand
  | missingKind
  | unknownCommand (word : String)
  | unknownArgument (word : String)
  /-- An option without its value, or with an empty path. -/
  | missingValue (argument : Argument)
  | invalidValue (argument : Argument) (fault : ValueFault)
  /-- A value at an option that takes none. -/
  | unwantedValue (argument : Argument)
  | givenTwice (argument : Argument)
deriving DecidableEq, Repr

/-- The message, which names the argument as it is typed. -/
def NoCommand.message : NoCommand → String
  | helpAsked => "help was asked for"
  | versionAsked => "the version was asked for"
  | nothingGiven => "a command is needed"
  | missingCommand => "a command is needed"
  | missingKind => "the kind of query is missing"
  | unknownCommand word => "unknown command '" ++ word ++ "'"
  | unknownArgument word => "unexpected argument '" ++ word ++ "'"
  | missingValue argument => "a value is needed for '" ++ argument.text ++ "'"
  | invalidValue argument fault =>
    "invalid value for '" ++ argument.text ++ "': " ++ fault.message
  | unwantedValue argument => "'" ++ argument.text ++ "' takes no value"
  | givenTwice argument => "'" ++ argument.text ++ "' is given twice"

/-! ## Levels -/

/-- Where on the command line a word stands: before or after the command. -/
inductive Level where
  | program
  | build
deriving DecidableEq, Repr

namespace Level

/-- The option of a long name. -/
def long? (level : Level) (name : String) : Option Argument :=
  -- settings belong to both levels
  match Setting.all.find? fun s => s.name == name with
  | some s => some (.setting s)
  | none =>
    if name = "help" then some .help
    else match level with
      | program => if name = "version" then some .version else none
      | build =>
        if name = "request" then some .request else if name = "pretty" then some .pretty else none

/-- The option of a letter. -/
def short? (level : Level) (letter : Char) : Option Argument :=
  match level, letter with
  | _, 'c' => some (.setting .config)
  | _, 'h' => some .help
  | program, 'V' => some .version
  | build, 'r' => some .request
  | _, _ => none

end Level

/-! ## Values -/

/-- A path, which is not empty. -/
def readPath (a : Argument) (text : String) : Except NoCommand String :=
  if text.isEmpty then .error (.missingValue a) else .ok text

/-- A count of 64 bits. -/
def readNumber (a : Argument) (text : String) : Except NoCommand Nat :=
  match readCount text with
  | .ok n => .ok n
  | .error fault => .error (.invalidValue a (.number fault))

/-- A kind of query by any of its names. -/
def readKind (text : String) : Except NoCommand QueryKind :=
  match QueryKind.ofName? text with
  | some kind => .ok kind
  | none => .error (.invalidValue .kind (.kind text))

namespace Setting

/-- Tells whether a setting has a value. -/
def isSet (o : Overrides) : Setting → Bool
  | config => o.config.isSome
  | defaultPageSize => o.defaultPageSize.isSome
  | maxPageSize => o.maxPageSize.isSome
  | maxFilters => o.maxFilters.isSome

/-- The overrides with one setting read from a text. -/
def put (s : Setting) (text : String) (o : Overrides) : Except NoCommand Overrides :=
  match s with
  | config => do return { o with config := some (← readPath (.setting s) text) }
  | defaultPageSize => do
    return { o with defaultPageSize := some (← readNumber (.setting s) text) }
  | maxPageSize => do return { o with maxPageSize := some (← readNumber (.setting s) text) }
  | maxFilters => do return { o with maxFilters := some (← readNumber (.setting s) text) }

end Setting

/-! ## What is given -/

/-- What has been given at one level. -/
structure Given where
  overrides : Overrides
  request : Option String
  kind : Option QueryKind
  pretty : Bool
deriving DecidableEq, Repr

namespace Given

/-- The level before its first word. -/
def nothing : Given := ⟨.none, none, none, false⟩

/-- Tells whether an argument has been given. -/
def has (g : Given) : Argument → Bool
  | .setting s => s.isSet g.overrides
  | .request => g.request.isSome
  | .kind => g.kind.isSome
  | .pretty => g.pretty
  | .help | .version => false

/-- Takes in the value of an argument. -/
def put (g : Given) (a : Argument) (text : String) : Except NoCommand Given :=
  -- a repetition is reported before the second value is read
  if g.has a then .error (.givenTwice a)
  else match a with
    | .setting s => do return { g with overrides := ← s.put text g.overrides }
    | .request => do return { g with request := some (← readPath a text) }
    | .kind => do return { g with kind := some (← readKind text) }
    | .pretty | .help | .version => .error (.unwantedValue a)

/-- Takes in an option that has no value; help and version end everything. -/
def raise (g : Given) (a : Argument) : Except NoCommand Given :=
  if g.has a then .error (.givenTwice a)
  else match a with
    | .pretty => .ok { g with pretty := true }
    | .help => .error .helpAsked
    | .version => .error .versionAsked
    | .setting _ | .request | .kind => .error (.missingValue a)

end Given

end TraceQuery.CommandLine
