import PyxProject.Build.Run
import PyxProject.Command.Arguments
import PyxProject.Command.Workplace
import PyxProject.Project.Artifacts
import PyxProject.Project.StubFile
import PyxProject.Text.Quoted

/-!
# The tasks

What each command does once the project is known.
-/

namespace PyxProject.Command

open Files Project

/-- Whether a path leads to a directory that is not empty. -/
def isOccupied (path : FilePath) : Action Bool := do
  if ← inspect fun tree directory => isDirectory tree directory path then
    match ← inspect fun tree directory => listDirectory tree directory path with
    | .ok names => return !names.isEmpty
    | .error fault => throw (.fileOperation (.readExtensions path) fault)
  else return false

/-- Create the directories of a project. -/
def runInit (workplace : Workplace) : Action Unit := do
  let layout := workplace.layout
  if ← isOccupied layout.extensionsDir then
    complainLine ("warning: " ++ workplace.shown layout.extensionsDir ++ " already contains files")
  createDirectory (.createExtensions layout.extensionsDir) layout.extensionsDir
  createDirectory (.createExtensions layout.annotationsDir) layout.annotationsDir
  printLine ("Initialized cybuilder in " ++ layout.root.toString)
  printLine ("  extensions:  " ++ workplace.shown layout.extensionsDir)
  printLine ("  annotations: " ++ workplace.shown layout.annotationsDir)

/-- Paths as a list of literals, one to a line. -/
def jsonList (paths : List FilePath) : Text :=
  if paths = [] then "[]"
  else "[\n  " ++ Text.join ",\n  " (paths.map fun path => Text.quote path.text) ++ "\n]"

/-- List the sources of a project. -/
def runList (workplace : Workplace) (files : List Text) (json : Bool) : Action Unit := do
  let sources ← workplace.sources files
  if json then printLine (String.ofList (jsonList sources))
  else
    if files = [] then printLine "Listing all pyx files..."
    else
      printLine ("Listing pyx files (filtered by " ++ String.ofList (Text.join " " files) ++ ")...")
    if sources = [] then printLine "No pyx files found"
    else
      printLine "Found files:"
      workplace.show sources

/-- Show what was done to clean up. -/
def showReport (workplace : Workplace) (report : CleanupReport) : Action Unit := do
  if report.isEmpty then printLine "Nothing to clean"
  else
    if report.removedBuildDir then
      printLine ("  Removed " ++ workplace.shown workplace.layout.buildDir)
    report.removedCFiles.forM fun file => printLine ("  Removed " ++ workplace.shown file)
    (report.movedReports ++ report.movedModules).forM fun move =>
      printLine ("  Moved " ++ workplace.shown move.source ++ " -> " ++
        workplace.shown move.destination)

/-- Clean up after a build. -/
def runClean (workplace : Workplace) (files : List Text) (keepCFiles accept : Bool) :
    Action Unit := do
  let sources ← workplace.sources files
  if sources = [] then printLine "No pyx files found"
  else
    printLine (s!"Found {sources.length} pyx file(s) to clean")
    if ← workplace.askConsent "clean" sources accept then
      printLine (s!"Cleaning {sources.length} pyx file(s)...")
      let report ← cleanUp workplace.layout sources keepCFiles
      showReport workplace report
      printLine "Cleanup complete"

/-- Write the stubs of sources. -/
def runInterface (workplace : Workplace) (files : List Text) (accept : Bool) : Action Unit := do
  let sources ← workplace.sources files
  if sources = [] then printLine "No pyx files found"
  else
    printLine (s!"Found {sources.length} pyx file(s) to generate interfaces for")
    if ← workplace.askConsent "generate interfaces for" sources accept then
      let _ ← writeStubs sources
      printLine (s!"Generated {sources.length} interface file(s)")

/-- Decide whether a build sees the headers of numpy. If they were asked for they have
to be there; if they are there and nobody has consented to everything, the user is
asked. -/
def decideNumpy (interpreter : FilePath) (requested accept : Bool) : Action Bool := do
  if requested then
    if ← Build.hasNumpy interpreter then return true
    else throw (.numpyRequested interpreter)
  else if accept then return false
  else if ← Build.hasNumpy interpreter then
    ask "Your project has numpy installed. Include numpy in the Cython build?"
  else return false

/-- What follows a successful compiler run: cleaning up and writing stubs. -/
def finishBuild (workplace : Workplace) (arguments : BuildArguments) (sources : List FilePath)
    (result : Build.Result) : Action Unit := do
  printLine (s!"Built {result.modules.length} module(s) in " ++ String.ofList result.seconds ++
    "s, cleaning up...")
  let report ← tryCatch (cleanUp workplace.layout sources arguments.noCleanup) fun cause =>
    throw (.cleanupAfterBuild cause)
  showReport workplace report
  if !arguments.noInterface then
    let built := sources.filter fun source => !result.skipped.any fun other => source.same other
    let _ ← tryCatch (writeStubs built) fun cause => throw (.stubsAfterBuild cause)
    printLine (s!"Generated {built.length} interface file(s)")
  printLine "Cython build success"

/-- Compile sources, clean up and write their stubs. -/
def runBuild (workplace : Workplace) (files : List Text) (arguments : BuildArguments) :
    Action Unit := do
  let interpreter ← Build.chooseInterpreter workplace.config.python?
  let includeNumpy ← decideNumpy interpreter
    (arguments.includeNumpy || workplace.config.includeNumpy) arguments.accept
  let sources ← workplace.sources files
  if sources = [] then printLine "No pyx files found"
  else
    printLine (s!"Found {sources.length} pyx file(s) to build")
    if ← workplace.askConsent "build" sources arguments.accept then
      printLine (s!"Building {sources.length} pyx file(s)...")
      let result ← Build.build interpreter workplace.layout.root sources
        { annotate := !arguments.noReports, includeNumpy, verbose := arguments.verbose }
      match result.error? with
      | some error =>
        if !arguments.verbose then complain (String.ofList result.output)
        throw (.buildFailed error)
      | none => finishBuild workplace arguments sources result

end PyxProject.Command
