import PyxProject.Project.Session

/-!
# Interpreters

The interpreter of a build is the one that the configuration or the environment
names, or the first one of a usual name on the search path. A name with several
components is a path; a single name is looked for on the search path and then in the
working directory. It is started the way a shell starts a program.
-/

namespace PyxProject.Build

open Files Project

/-- The names that are tried on the search path if none is asked for. -/
def usualNames : List Text := ["python3", "python"]

/-- The first file with a name, or with that name and the extension `exe`, on a search
path. -/
def findOnPath? (tree : FileTree) (host : Host) (name : Text) : Option FilePath :=
  host.searchPath.findSome? fun directory =>
    let candidate := directory.join ⟨name⟩
    [candidate, candidate.withExtension "exe"].find? (isFile tree host.directory)

/-- The file that an interpreter is asked for by. -/
def findRequested? (tree : FileTree) (host : Host) (requested : Text) : Option FilePath :=
  let path : FilePath := ⟨requested⟩
  let here := if isFile tree host.directory path then some path else none
  if 1 < path.components.length then here
  else (findOnPath? tree host requested).or here

/-- The interpreter for a build, or why there is none. -/
def findInterpreter (tree : FileTree) (host : Host) (configured? : Option Text) :
    Except Failure FilePath :=
  match configured?.or (host.filled? "PYTHON") with
  | some requested =>
    match findRequested? tree host requested with
    | some path => .ok path
    | none => .error (.interpreterMissing (some requested))
  | none =>
    match usualNames.findSome? (findOnPath? tree host) with
    | some path => .ok path
    | none => .error (.interpreterMissing none)

/-- Choose the interpreter for a build. -/
def chooseInterpreter (configured? : Option Text) : Action FilePath := do
  match findInterpreter (← get).tree (← read) configured? with
  | .ok path =>
    report ("using python at " ++ path.toString)
    return path
  | .error failure => throw failure

/-- The program at a path, to be started in a working directory. -/
def programAt (tree : FileTree) (directory path : FilePath) : Except Fault Program := do
  match tree.get? (← resolve tree directory path) with
  | some (.program program) => return program
  | some (.file _ true) => throw .notAProgram
  | some _ => throw .permissionDenied
  | none => throw .notFound

/-- Whether the search for a program goes on after a candidate that cannot be started:
it does where the candidate is missing or may not be started. -/
def isPassedOver : Fault → Bool
  | .notFound | .notADirectory | .permissionDenied => true
  | _ => false

/-- The first of several candidates that can be started. Where none can, a candidate
that may not be started counts for more than the last one that is missing. -/
def firstProgram (tree : FileTree) (directory : FilePath) (fault : Fault) :
    List FilePath → Except Fault Program
  | [] => .error fault
  | path :: rest =>
    match programAt tree directory path with
    | .ok program => .ok program
    | .error next =>
      if isPassedOver next then
        firstProgram tree directory (if fault = .permissionDenied then fault else next) rest
      else .error next

/-- The program that is started for a command in a working directory. A command
without a slash is looked for on the search path. -/
def startProgram (tree : FileTree) (host : Host) (directory command : FilePath) :
    Except Fault Program :=
  if command.text.contains '/' then programAt tree directory command
  else firstProgram tree directory .notFound (host.searchPath.map fun entry => entry.join command)

/-- What is run to learn where the headers of numpy are. -/
def numpyProbe : Text := "import numpy; print(numpy.get_include())"

/-- Ask an interpreter for the directory of the headers of numpy. -/
def numpyDirectory (interpreter : FilePath) : Action FilePath := do
  match startProgram (← get).tree (← read) (← read).directory interpreter with
  | .error fault => throw (.interpreterNotStarted fault)
  | .ok program =>
    recordLines ["PROBE " ++ numpyProbe]
    match program.numpy? with
    | none => throw (.numpyMissing interpreter)
    | some printed =>
      let directory := Text.trim printed
      if directory = [] then throw .numpyNowhere else return ⟨directory⟩

/-- Whether an interpreter knows numpy. -/
def hasNumpy (interpreter : FilePath) : Action Bool :=
  tryCatch (do let _ ← numpyDirectory interpreter; return true) fun _ => return false

end PyxProject.Build
