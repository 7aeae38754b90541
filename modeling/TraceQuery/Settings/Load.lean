/-
  Loading the settings of a run.

  Two files count.  The profile file stands in the home directory and is read if it is there.  Over it
  comes the file that the run names, which must be there, or else the file of the working directory
  if it is there.  The run's own overrides come last, and the outcome must be valid.

  Loading is a plain function of what is found at the two places (`Surroundings.profilePath` and
  `Surroundings.overlayPath`).

  Mathlib-free.
-/
import TraceQuery.Files.Tree
import TraceQuery.Settings.File

namespace TraceQuery

open TraceQuery.Files (FileStatus joinPath expandPath)

/-- The places that a run starts from. -/
structure Surroundings where
  home : String
  directory : String
deriving DecidableEq, Repr

/-- Why settings cannot be loaded. -/
inductive SettingsError where
  | notFound (path : String)
  | unreadable (path reason : String)
  | invalidFile (path : String) (error : Json.ReadError)
  | invalid (error : InvalidSettings)
deriving DecidableEq

/-- The message; a failure at a file names its path. -/
def SettingsError.message : SettingsError → String
  | notFound path => "Config file not found: " ++ path
  | unreadable path reason => "Failed to read config file: " ++ path ++ ": " ++ reason
  | invalidFile path error => "Failed to parse config file: " ++ path ++ ": " ++ error.message
  | invalid error => error.message

/-- The name of a configuration file. -/
def configFileName : String := "tracelens.json"

/-- The directory of the profile file inside the home directory. -/
def profileDirectory : String := ".tracelens"

namespace Surroundings

/-- The path of the profile file in the home directory. -/
def profilePath (s : Surroundings) : String :=
  joinPath (joinPath s.home profileDirectory) configFileName

/-- The absolute path of a file that the run names. -/
def expand (s : Surroundings) (path : String) : String := expandPath s.home s.directory path

/-- The path of the file that comes over the profile. -/
def overlayPath (s : Surroundings) (overrides : Overrides) : String :=
  match overrides.config with
  | some path => s.expand path
  | none => configFileName

end Surroundings

/-- The configuration file at a path, given what is found there. -/
def ConfigFile.load (path : String) (status : FileStatus) : Except SettingsError ConfigFile :=
  match status.read with
  | .error reason => .error (.unreadable path reason)
  | .ok content =>
    match ConfigFile.ofText content with
    | .error e => .error (.invalidFile path e)
    | .ok file => .ok file

/-- The configuration file at a path, if there is one. -/
def ConfigFile.load? (path : String) (status : FileStatus) :
    Except SettingsError (Option ConfigFile) :=
  -- a file that is there must be readable: only absence is passed over
  if status.exists then (ConfigFile.load path status).map some else .ok none

/-- The layers of files merged, the overlay over the profile. -/
def ConfigFile.ofLayers (profile overlay : Option ConfigFile) : ConfigFile :=
  [profile, overlay].foldl (fun file layer => match layer with
    | some upper => file.merge upper
    | none => file) ConfigFile.empty

/-- The settings of two layers of files and the overrides, if they can be used. -/
def Settings.ofLayers (profile overlay : Option ConfigFile) (overrides : Overrides) :
    Except InvalidSettings Settings :=
  (Settings.resolve (ConfigFile.ofLayers profile overlay) overrides).validate

/-- The settings of a run, given what is found at `profilePath` and at `overlayPath`. -/
def Settings.load (surroundings : Surroundings) (overrides : Overrides)
    (profile overlay : FileStatus) : Except SettingsError Settings := do
  let profile ← ConfigFile.load? surroundings.profilePath profile
  let overlayPath := surroundings.overlayPath overrides
  -- the profile has been read by now, so a fault in it is reported before this one
  if overrides.config.isSome && !overlay.exists then .error (.notFound overlayPath)
  else
    let overlay ← ConfigFile.load? overlayPath overlay
    match Settings.ofLayers profile overlay overrides with
    | .ok settings => return settings
    | .error e => .error (.invalid e)

end TraceQuery
