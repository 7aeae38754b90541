/-
  The command that a command line gives.

  1. **Pending values**: an option whose value is another word waits for it, and even a value that has
     come is not read before the next argument, or the end of the level, settles it (`State.settle`).
     So a word that cannot stand where it stands is reported before a bad value in front of it.
  2. **One level** (`State.word`) takes the words one after another.  After `--` every word is plain.
  3. **The command**: `build` begins the second level, which is read to its end before the first one
     is settled.  `help` names commands and gives no command.
  4. **The environment** sets what a level has not been given, and what it says is read at each level
     where it could count (`State.finish`).  The second level comes before the first one, and both
     before the environment.

  Mathlib-free.
-/
import TraceQuery.CommandLine.Argument
import TraceQuery.CommandLine.Word

namespace TraceQuery.CommandLine

/-! ## One level -/

/-- A level while its words are taken. -/
structure State where
  given : Given
  /-- An argument that is not settled, and its value if that has come. -/
  pending : Option (Argument × Option String)
  /-- Tells whether options are over. -/
  ended : Bool
deriving DecidableEq, Repr

namespace State

/-- The level before its first word. -/
def start : State := ⟨.nothing, none, false⟩

/-- Takes in the pending argument. -/
def settle (s : State) : Except NoCommand State :=
  match s.pending with
  | none => .ok s
  | some (a, none) => .error (.missingValue a)
  -- only now is the value read, so that a fault in it comes after those of later words
  | some (a, some text) => do return { s with given := ← s.given.put a text, pending := none }

/-- The option that the next plain word is the value of. -/
def awaiting? (s : State) : Option Argument :=
  match s.pending with
  | some (a, none) => if s.ended then none else some a
  | _ => none

/-- An argument with a value, which may be attached to it. -/
def name (s : State) (a : Argument) (attached : Option String) : Except NoCommand State := do
  let s ← s.settle
  match attached with
  | some text => return { s with given := ← s.given.put a text }
  | none => return { s with pending := some (a, none) }

/-- An option that has no value. -/
def raise (s : State) (a : Argument) : Except NoCommand State := do
  let s ← s.settle
  return { s with given := ← s.given.raise a }

/-- A long option. -/
def longOption (level : Level) (s : State) (name : String) (value : Option String) :
    Except NoCommand State :=
  match level.long? name with
  | none => .error (.unknownArgument ("--" ++ name))
  | some a =>
    if a.takesValue then s.name a value
    else if value.isSome then .error (.unwantedValue a)
    else s.raise a

/-- What is attached to a short option; an equals sign in front of it does not count. -/
def attachedValue : List Char → Option String
  | [] => none
  | '=' :: value => some (String.ofList value)
  | value => some (String.ofList value)

/-- A cluster of short options; what follows one that takes a value is that value. -/
def shortOptions (level : Level) : State → List Char → Except NoCommand State
  | s, [] => .ok s
  | s, c :: rest =>
    match level.short? c with
    | none => .error (.unknownArgument (String.ofList ['-', c]))
    | some a =>
      if a.takesValue then s.name a (attachedValue rest)
      else do
        let s ← s.raise a
        shortOptions level s rest

/-- The words that name a command. -/
def buildWord : String := "build"

/-- The word that asks for help instead of naming a command to run. -/
def helpWord : String := "help"

/-- A plain word that is no option's value. -/
def positional (level : Level) (s : State) (text : String) : Except NoCommand State :=
  match level with
  | .program =>
    if s.ended && (text == buildWord || text == helpWord) then .error (.unknownArgument text)
    else .error (.unknownCommand text)
  | .build =>
    -- the kind may still be pending when a second plain word comes
    if s.given.kind.isSome || s.pending.any fun p => p.1 == .kind then .error (.unknownArgument text)
    else do
      let s ← s.settle
      return { s with pending := some (.kind, some text) }

/-- A plain word. -/
def plain (level : Level) (s : State) (text : String) : Except NoCommand State :=
  match s.awaiting? with
  | some a => .ok { s with pending := some (a, some text) }
  | none => s.positional level text

/-- One word. -/
def word (level : Level) (s : State) (text : String) : Except NoCommand State :=
  if s.ended then s.plain level text
  else match Word.ofText text with
    | .endOfOptions => .ok { s with ended := true }
    | .long name value => s.longOption level name value
    | .short letters => s.shortOptions level letters
    | .plain text => s.plain level text

/-- What the environment sets of the settings that a level has not been given. -/
def fromEnvironment (environment : String → Option String) (o : Overrides) :
    Except NoCommand Overrides :=
  Setting.all.foldlM (fun found s =>
    if s.isSet o then .ok found
    else match environment s.environmentName with
      | none => .ok found
      | some text => s.put text found) Overrides.none

/-- The end of a level: what it has been given, and what the environment adds. -/
def finish (environment : String → Option String) (s : State) :
    Except NoCommand (Given × Overrides) := do
  let s ← s.settle
  let found ← fromEnvironment environment s.given.overrides
  return (s.given, found)

end State

/-! ## The whole line -/

/-- The command to build a query. -/
structure Command where
  kind : QueryKind
  /-- The file that holds the request; the standard input if none is named. -/
  request : Option String
  pretty : Bool
  overrides : Overrides
deriving DecidableEq, Repr

/-- The words after `help`: at most one, and that a command. -/
def helpOn (words : List String) : NoCommand :=
  match words with
  | [] => .helpAsked
  | word :: rest =>
    if word = State.buildWord ∨ word = State.helpWord then
      match rest with
      | [] => .helpAsked
      | word :: _ => .unknownCommand word
    else .unknownCommand word

/-- The words after the command: the kind, what else is given, and what the environment adds. -/
def readBuild (environment : String → Option String) (words : List String) :
    Except NoCommand (QueryKind × Given × Overrides) := do
  let s ← words.foldlM (State.word .build) State.start
  let (given, found) ← s.finish environment
  match given.kind with
  | none => .error .missingKind
  | some kind => return (kind, given, found)

/-- Tells whether a plain word may be a command. -/
def State.takesCommand (s : State) : Bool := !s.ended && s.awaiting?.isNone

/-- The words that are left of the first level. -/
def readProgram (environment : String → Option String) :
    State → List String → Except NoCommand Command
  | s, [] => do
    let (given, found) ← s.finish environment
    .error (if given = .nothing ∧ found = .none then .nothingGiven else .missingCommand)
  | s, text :: rest =>
    if s.takesCommand && text == State.buildWord then do
      -- the second level is over before the first one is settled
      let (kind, given, found) ← readBuild environment rest
      let (outer, outerFound) ← s.finish environment
      -- later ones win, so the words of the second level are the last
      let overrides := [outerFound, outer.overrides, given.overrides].foldl Overrides.merge found
      return ⟨kind, given.request, given.pretty, overrides⟩
    else if s.takesCommand && text == State.helpWord then .error (helpOn rest)
    else do
      let s ← s.word .program text
      readProgram environment s rest

/-- The command that the words give in an environment. -/
def Command.ofWords (environment : String → Option String) (words : List String) :
    Except NoCommand Command := readProgram environment State.start words

end TraceQuery.CommandLine
