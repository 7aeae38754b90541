/-
  The program on a machine: a host whose files, environment and standard input are real.

  Everything that is decided is decided in `Host.run`; here files are read, and failures of the system
  are put into its words.

  Mathlib-free.
-/
import TraceQuery.Run

namespace TraceQuery.Machine

open TraceQuery.Files (FileStatus noSuchFile notADirectory isADirectory nameTooLong)

/-- The number of a failure, which may be given with the opposite sign, in 32 bits. -/
def unsignedCode (code : UInt32) : Nat := min code.toNat (4294967296 - code.toNat)

/-- The number that the system gives to a failure. -/
def failureCode : IO.Error → Option Nat
  | .noFileOrDirectory _ code _ | .inappropriateType _ code _ | .invalidArgument _ code _
  | .permissionDenied _ code _ | .resourceExhausted _ code _ | .noSuchThing _ code _
  | .alreadyExists _ code _ => some (unsignedCode code)
  | .otherError code _ | .illegalOperation code _ | .unsupportedOperation code _ =>
    some (unsignedCode code)
  | _ => none

/-- What a failure to read a file says about it. -/
def statusOfFailure (e : IO.Error) : FileStatus :=
  match failureCode e with
  | some 2 => .missing noSuchFile
  | some 20 => .missing notADirectory
  | some 21 => .unreadable isADirectory
  | some 36 => .missing nameTooLong
  | _ => .unreadable (toString e)

/-- What the machine finds at a path. -/
def readStatus (path : String) : IO FileStatus := do
  try
    return .text (← IO.FS.readFile path)
  catch e => return statusOfFailure e

/-- The standard input to its end, or why it cannot be read. -/
def readInput : IO (Except String String) := do
  try
    return .ok (← (← IO.getStdin).readToEnd)
  catch e => return .error (toString e)

/-- The name and the value of an entry of the environment. -/
def readEntry (entry : String) : Option (String × String) :=
  match CommandLine.splitValue entry.toList with
  | (name, some value) => some (String.ofList name, String.ofList value)
  | _ => none

/-- The file in which the system shows a process its environment, entries ending in NUL. -/
def environmentPath : String := "/proc/self/environ"

/-- The environment of the process.  Where the system does not show it as a file, only the names that a run
    can ask for are looked up. -/
def readEnvironment : IO Environment := do
  match ← readStatus environmentPath with
  | .text content => return ⟨(content.splitOn "\x00").filterMap readEntry⟩
  | _ =>
    let names := "HOME" :: CommandLine.Setting.all.map CommandLine.Setting.environmentName
    let mut entries := []
    for name in names do
      if let some value ← IO.getEnv name then entries := (name, value) :: entries
    return ⟨entries⟩

/-- The machine as a host. -/
def host (arguments : List String) : IO (Host IO) := do
  let directory ← IO.currentDir
  let home ← IO.getEnv "HOME"
  return {
    arguments
    environment := ← readEnvironment
    surroundings := ⟨home.getD "", directory.toString⟩
    status := readStatus
    input := readInput }

end TraceQuery.Machine

/-- Runs the program once; all it decides itself is which output a text goes to. -/
def main (arguments : List String) : IO UInt32 := do
  let outcome ← (← TraceQuery.Machine.host arguments).run
  IO.print outcome.output
  IO.eprint outcome.errors
  return UInt32.ofNat outcome.exit
