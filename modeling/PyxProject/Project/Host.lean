import PyxProject.Files.Path
import PyxProject.Text.Blank

/-!
# The surroundings of a run

What a run takes from outside and does not change: the working directory, the
environment variables, a name for temporary files, and whether it is to report what
it does.
-/

namespace PyxProject.Project

open Files

/-- The surroundings of a run. -/
structure Host where
  /-- The working directory, an absolute path. -/
  directory : FilePath
  /-- The environment variables with their values. -/
  environment : List (Text × Text) := []
  /-- A name that no file has yet. -/
  nonce : Text := []
  /-- Whether to report what is done. -/
  debug : Bool := false
deriving DecidableEq, Repr

/-- The value of an environment variable. -/
def Host.value? (host : Host) (name : Text) : Option Text :=
  (host.environment.find? fun entry => entry.1 == name).map Prod.snd

/-- The value of an environment variable that holds something besides blanks. -/
def Host.filled? (host : Host) (name : Text) : Option Text :=
  (host.value? name).filter fun value => Text.trim value != []

/-- The directory for temporary files, an absolute path. -/
def Host.temporary (host : Host) : FilePath :=
  host.directory.join ⟨(host.value? "TMPDIR").getD "/tmp"⟩

/-- The directories in which programs are looked for, in order. -/
def Host.searchPath (host : Host) : List FilePath :=
  match host.value? "PATH" with
  | some value => (value.splitOn ':').map FilePath.mk
  | none => []

/-- The variables that a compiler takes its flags from. -/
def compilerVariables : List Text := ["CC", "CFLAGS", "LDFLAGS"]

/-- The compiler variables that hold something, with their values. -/
def Host.compilerSettings (host : Host) : List (Text × Text) :=
  compilerVariables.filterMap fun name => (host.filled? name).map fun value => (name, value)

/-- The directory of the user's own configuration. -/
def Host.configDirectory? (host : Host) : Option FilePath :=
  match host.filled? "XDG_CONFIG_HOME" with
  | some directory => some (FilePath.join ⟨directory⟩ "cybuilder")
  | none => ((host.value? "HOME").filter (· != [])).map fun home =>
      ((FilePath.join ⟨home⟩ ".config").join "cybuilder")

end PyxProject.Project
