import PyxProject.Build.Interpreter
import PyxProject.Build.SetupScript
import PyxProject.Project.Layout

/-!
# Running a build

The sources that exist are listed in a setup script, which the interpreter runs in
the root of the project. A run that does not succeed is a result and not a failure.
-/

namespace PyxProject.Build

open Files Project

/-- What a build is asked to do. -/
structure Options where
  /-- Whether a report on each source is written. -/
  annotate : Bool := true
  /-- Whether the headers of numpy are on the include path. -/
  includeNumpy : Bool := false
  /-- Whether commands and their output are shown. -/
  verbose : Bool := false
deriving DecidableEq, Repr

/-- What a build gave. -/
structure Result where
  /-- The modules that the script listed. -/
  modules : List Text
  /-- The sources that do not exist. -/
  skipped : List FilePath
  /-- Why the run did not succeed, if it did not. -/
  error? : Option BuildError
  /-- What the run printed. -/
  output : Text
  /-- The time that the run took, in seconds. -/
  seconds : Text
deriving DecidableEq, Repr

/-- The name of the setup script. -/
def scriptName : Text := "cybuilder_setup.py"

/-- The arguments of the setup script. -/
def scriptArguments : Text := "build_ext --inplace"

/-- The temporary directory that holds the setup script and nothing else. -/
def scriptDirectory (host : Host) : FilePath :=
  host.temporary.join ⟨"cybuilder-" ++ host.nonce⟩

/-- The path of the setup script. -/
def scriptPath (host : Host) : FilePath := (scriptDirectory host).join ⟨scriptName⟩

/-- The extension that a source is built to. -/
def extensionOf (root source : FilePath) : Except Failure Extension :=
  match moduleOf? source with
  | some name => .ok ⟨name, root.join source⟩
  | none => .error (.namelessSource source)

/-- The absolute path of a location. -/
def locationText (location : Location) : Text := location.flatMap fun name => '/' :: name

/-- The environment variables for the compiler as a program sees them. -/
def seenVariables (host : Host) : List Text :=
  compilerVariables.filterMap fun name =>
    (host.value? name).map fun value => "ENV " ++ name ++ "=" ++ value

/-- What a program sees of a run of a script in a directory. -/
def runRecord (host : Host) (location : Location) (script : Text) : List Text :=
  ("RUN " ++ scriptName ++ " " ++ scriptArguments) ::
    ("CWD " ++ locationText location) ::
    (seenVariables host ++ (Text.lines script).map (fun line => '|' :: ' ' :: line))

/-- Write one file of a run, with the directories that it lacks. -/
def createFile (tree : FileTree) (entry : Text × ByteArray) : FileTree :=
  let path : FilePath := ⟨entry.1⟩
  let (_, tree) := makeDirectoryTree "/" ((path.parent?).getD "/") tree
  match writeContent tree "/" path entry.2 with
  | .ok written => written
  | .error _ => tree

/-- Delete one file of a run. -/
def deleteFile (tree : FileTree) (path : Text) : FileTree :=
  match removeFile tree "/" ⟨path⟩ with
  | .ok removed => removed
  | .error _ => tree

/-- What a run of a program leaves in the tree. -/
def applyProgram (program : Program) (tree : FileTree) : FileTree :=
  program.removes.foldl deleteFile (program.creates.foldl createFile tree)

/-- How a run of a program ended. -/
def endOf (program : Program) : Option BuildError :=
  if program.status < 0 then some (.ended none)
  else
    let code := program.status.toNat % 256
    if code = 0 then none else some (.ended (some code))

/-- The location of a directory and the program that is started there for a command. -/
def startIn (tree : FileTree) (host : Host) (root command : FilePath) :
    Except Fault (Location × Program) := do
  if root.text.contains (Char.ofNat 0) then throw .nulInCommand
  let location ← resolve tree host.directory root
  if !tree.holdsDirectory location then throw .notADirectory
  let program ← startProgram tree host (host.directory.join root) command
  return (location, program)

/-- Run a script with an interpreter in a directory. The result is what was printed,
how long it took and why it did not succeed. -/
def runScript (interpreter root : FilePath) (script : Text) (verbose : Bool) :
    Action (Option BuildError × Text × Text) := do
  let host ← read
  host.compilerSettings.forM fun (name, value) =>
    report ("passing " ++ String.ofList name ++ "=" ++ String.ofList value ++ " to the build")
  match startIn (← get).tree host root interpreter with
  | .error fault => return (some (.notStarted interpreter fault), [], "0.0")
  | .ok (location, program) =>
    recordLines (runRecord host location script)
    modify fun session => { session with tree := applyProgram program session.tree }
    let output := program.out ++ program.err
    if verbose then print (String.ofList output)
    return (endOf program, output, program.seconds)

/-- Build the given sources in a root. -/
def build (interpreter root : FilePath) (sources : List FilePath) (options : Options) :
    Action Result := do
  let (present, skipped) ← inspect fun tree directory => sources.partition (isFile tree directory)
  skipped.forM fun source => printLine ("File '" ++ source.toString ++ "' not found; skipping")
  if present = [] then throw .nothingToBuild
  let includeDirs ←
    if options.includeNumpy then
      tryCatch (do return [← numpyDirectory interpreter]) fun cause => throw (.numpyRequired cause)
    else pure []
  let extensions ← present.mapM fun source => liftExcept (extensionOf root source)
  let script := scriptText extensions includeDirs options.annotate
  checkScriptDirectory
  if options.verbose then
    printLine (s!"Building {extensions.length} extension(s) in " ++ root.toString)
    printLine ("  Running: " ++ interpreter.toString ++ " " ++ (scriptPath (← read)).toString ++
      " " ++ String.ofList scriptArguments)
  let (error?, output, seconds) ← runScript interpreter root script options.verbose
  return { modules := extensions.map Extension.name, skipped, error?, output, seconds }
where
  /-- A directory for the setup script can be made. It is gone when the build ends. -/
  checkScriptDirectory : Action Unit := do
    let path := scriptDirectory (← read)
    match ← inspect fun tree directory => makeDirectory tree directory path with
    | .ok _ => return ()
    | .error fault => throw (.fileOperation .createScriptDirectory (.atPath fault path))
  /-- A failure that was computed fails the action. -/
  liftExcept {α : Type} : Except Failure α → Action α
    | .ok value => return value
    | .error failure => throw failure

end PyxProject.Build
