/-
  A run of the program, from its arguments to what it prints.

  1. **Host**: a run asks its host for arguments, environment, files and standard input (`Host`).
     The host is generic in how it answers, so that a run with a file tree in memory is a plain
     function and a run on a machine is the same definition.
  2. **Order**: the environment file, the command, the settings, the request, the query.  A request is
     only read once the settings are valid.
  3. **Outcome**: a finished query goes to the standard output.  Any failure of a command ends with
     status 1 and its message on the standard error; a command line without a command ends with
     status 2, unless it asks for help or for the version; and an environment file whose values cannot
     be kept ends the run with status 101 before anything else is looked at.

  Mathlib-free.
-/
import TraceQuery.CommandLine.Command
import TraceQuery.Environment.File
import TraceQuery.Query.Json
import TraceQuery.Settings.Load

namespace TraceQuery

open TraceQuery.CommandLine (Command NoCommand)
open TraceQuery.Files (FileStatus joinPath ancestors)

/-! ## The host -/

/-- What surrounds a run. -/
structure Host (m : Type → Type) where
  arguments : List String
  environment : Environment
  surroundings : Surroundings
  /-- What is found at a path. -/
  status : String → m FileStatus
  /-- The standard input, or why it cannot be read. -/
  input : m (Except String String)

/-! ## Outcomes -/

/-- What a run leaves behind: its status, and what it wrote to the two outputs. -/
structure Outcome where
  exit : Nat
  output : String
  errors : String
deriving DecidableEq, Repr

/-- Why a command fails. -/
inductive RunError where
  | settings (error : SettingsError)
  | requestFile (path reason : String)
  | requestInput (reason : String)
  | build (error : BuildError)

/-- The message of a command that fails, with the place of the failure in front. -/
def RunError.message : RunError → String
  | settings error => error.message
  | requestFile path reason => "Failed to read request file: " ++ path ++ ": " ++ reason
  | requestInput reason => "Failed to read request from stdin: " ++ reason
  | build error => error.message

/-- The name of the program. -/
def programName : String := "tracelens"

/-- What `--version` shows. -/
def programVersion : String := "0.1.0"

/-- What is shown to who asks for help, and to who gives no command. -/
def usage : String :=
  "Usage: " ++ programName ++ " [OPTIONS] build [--request FILE] [--pretty] <KIND>\n" ++
    "Kinds: " ++ ", ".intercalate (QueryKind.all.map QueryKind.name) ++ "\n"

/-- What is printed where there is no command. -/
def Outcome.ofNoCommand : NoCommand → Outcome
  | .helpAsked => ⟨0, usage, ""⟩
  | .versionAsked => ⟨0, programName ++ " " ++ programVersion ++ "\n", ""⟩
  | e => ⟨2, "", "error: " ++ e.message ++ "\n\n" ++ usage⟩

/-- What is printed in the end. -/
def Outcome.ofResult : Except RunError String → Outcome
  | .ok text => ⟨0, text ++ "\n", ""⟩
  | .error e => ⟨1, "", "\nError: " ++ e.message ++ "\n\n"⟩

/-- What is printed where the environment file cannot be taken in. -/
def Outcome.ofUnstorable (u : UnstorableValue) : Outcome := ⟨101, "", u.message ++ "\n"⟩

/-! ## Steps -/

/-- The text of a request for the command, as a rendered query. -/
def Settings.answer (settings : Settings) (command : Command) (request : String) :
    Except RunError String :=
  match buildQuery settings.limits command.kind request with
  | .error e => .error (.build e)
  | .ok query => .ok (query.render (command.pretty || settings.pretty))

namespace Host

variable {m : Type → Type} [Monad m] (host : Host m)

/-- The name of a file with assignments to environment names. -/
def environmentFileName : String := ".env"

/-- The first text among the files at some paths. -/
def firstText : List String → m (Option String)
  | [] => pure none
  | path :: rest => do
    -- what cannot be read is passed over like what is not there
    match ← host.status path with
    | .text content => pure (some content)
    | _ => firstText rest

/-- The environment with the assignments of the nearest environment file. -/
def loadEnvironment : m (Except UnstorableValue Environment) := do
  let paths := (ancestors host.surroundings.directory).map fun d => joinPath d environmentFileName
  match ← host.firstText paths with
  | some content => pure (host.environment.load content)
  | none => pure (.ok host.environment)

/-- The settings for a command. -/
def loadSettings (overrides : Overrides) : m (Except SettingsError Settings) := do
  -- both places are looked at first, so that the rest is a plain function of what was found
  let profile ← host.status host.surroundings.profilePath
  let overlay ← host.status (host.surroundings.overlayPath overrides)
  pure (Settings.load host.surroundings overrides profile overlay)

/-- The text of the request for a command. -/
def readRequestText (command : Command) : m (Except RunError String) := do
  match command.request with
  | some path => pure ((← host.status path).read.mapError (.requestFile path))
  | none => pure ((← host.input).mapError .requestInput)

/-- What a command prints, or why it fails. -/
def execute (command : Command) : m (Except RunError String) := do
  match ← host.loadSettings command.overrides with
  | .error e => pure (.error (.settings e))
  | .ok settings =>
    -- the standard input is left alone while the settings are invalid
    match ← host.readRequestText command with
    | .error e => pure (.error e)
    | .ok request => pure (settings.answer command request)

/-- The whole run. -/
def run : m Outcome := do
  match ← host.loadEnvironment with
  | .error u => pure (.ofUnstorable u)
  | .ok environment =>
    match Command.ofWords environment.get? host.arguments with
    | .error e => pure (.ofNoCommand e)
    | .ok command => return .ofResult (← host.execute command)

end Host

end TraceQuery
