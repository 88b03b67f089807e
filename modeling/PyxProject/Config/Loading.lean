import PyxProject.Config.Reading
import PyxProject.Project.Session

/-!
# Finding the configuration of a project

A configuration comes from a file that is named, else from the file of the project,
else from the file of the user. Only the first of them that exists is read, and if
there is none the defaults hold. Reading may be switched off altogether.
-/

namespace PyxProject.Config

open Files Project

/-- The name of the configuration file of a project. -/
def localFile : FilePath := ".cybuilder.toml"

/-- Read one configuration file. -/
def loadFile (path : FilePath) : Action Config := do
  match ← inspect fun tree directory => readText tree directory path with
  | .error fault => throw (.configUnreadable path fault)
  | .ok content =>
    match read? content with
    | none => throw (.configMalformed path)
    | some config =>
      report ("loaded configuration from " ++ path.toString)
      return config

/-- The configuration files that are looked for, in order. -/
def candidates (host : Host) (project : FilePath) : List FilePath :=
  project.join localFile :: (host.configDirectory?.map fun dir => dir.join "config.toml").toList

/-- The configuration of a project. -/
def load (project : FilePath) (custom? : Option FilePath) (skip : Bool) : Action Config := do
  if skip then
    report "--norc given, using default configuration"
    return {}
  match custom? with
  | some path => loadFile path
  | none =>
    let files := candidates (← read) project
    match ← inspect fun tree directory => files.find? (isFile tree directory) with
    | some path => loadFile path
    | none => return {}

end PyxProject.Config
