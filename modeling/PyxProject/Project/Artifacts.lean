import PyxProject.Project.Layout
import PyxProject.Project.Session

/-!
# Cleaning up after a build

A build leaves intermediate files, and leaves its results where it ran. Cleaning up
removes the directory for intermediate files and the C file of each source, moves
the report on each source to the place where reports are collected, and moves
compiled modules from the root to their sources. The modules are looked for once,
before anything is moved. A file that is in the way of a move is replaced.
-/

namespace PyxProject.Project

open Files

/-- A file that was moved. -/
structure Move where
  source : FilePath
  destination : FilePath
deriving DecidableEq, Repr

/-- What was done to clean up. -/
structure CleanupReport where
  removedBuildDir : Bool := false
  removedCFiles : List FilePath := []
  movedReports : List Move := []
  movedModules : List Move := []
  /-- The sources that do not exist. -/
  skipped : List FilePath := []
deriving DecidableEq, Repr

/-- Whether nothing was removed or moved. -/
def CleanupReport.isEmpty (report : CleanupReport) : Bool :=
  !report.removedBuildDir && report.removedCFiles.isEmpty && report.movedReports.isEmpty &&
    report.movedModules.isEmpty

/-- Rename a file. Where it cannot be renamed it is copied and removed. -/
def renameOrCopy (source destination : FilePath) : Action Unit := do
  match ← inspect fun tree directory => rename tree directory source destination with
  | .ok tree => modify fun session => { session with tree := tree }
  | .error _ =>
    change (.copy source destination) fun tree directory =>
      copyFile tree directory source destination
    change (.remove source) fun tree directory => removeFile tree directory source

/-- Move a file, in place of a file that may be there. -/
def relocate (source destination : FilePath) : Action Unit := do
  report ("moving " ++ source.toString ++ " -> " ++ destination.toString)
  if let some parent := destination.parent? then
    createDirectory (.createParent parent) parent
  renameOrCopy source destination

/-- The regular files directly in the root, in order. -/
def rootFiles (root : FilePath) : Action (List FilePath) := do
  match ← inspect fun tree directory => listDirectory tree directory root with
  | .error fault => throw (.fileOperation (.readRoot root) fault)
  | .ok names =>
    let paths := names.map fun name => root.join ⟨name⟩
    let files ← inspect fun tree directory => paths.filter (isFile tree directory)
    return sortPaths files

/-- Remove the directory for intermediate files. -/
def removeBuildDir (layout : Layout) (report : CleanupReport) : Action CleanupReport := do
  if ← inspect fun tree directory => isDirectory tree directory layout.buildDir then
    change (.remove layout.buildDir) fun tree directory => removeTree tree directory layout.buildDir
    return { report with removedBuildDir := true }
  else return report

/-- Remove the C file of a source. -/
def removeCFile (source : FilePath) (report : CleanupReport) : Action CleanupReport := do
  let file := cFile source
  if ← inspect fun tree directory => isFile tree directory file then
    change (.remove file) fun tree directory => removeFile tree directory file
    return { report with removedCFiles := report.removedCFiles ++ [file] }
  else return report

/-- Move the report on a source to where reports are collected. -/
def moveReport (layout : Layout) (source : FilePath) (report : CleanupReport) :
    Action CleanupReport := do
  let file := htmlFile source
  if ← inspect fun tree directory => isFile tree directory file then
    let destination := layout.reportDestination source
    relocate file destination
    return { report with movedReports := report.movedReports ++ [⟨file, destination⟩] }
  else return report

/-- Move a compiled module into a directory, unless it is there already or gone. -/
def moveModule (directory : FilePath) (report : CleanupReport) (file : FilePath) :
    Action CleanupReport := do
  match file.fileName? with
  | none => return report
  | some name =>
    let destination := directory.join ⟨name⟩
    if file.same destination then return report
    else if ← inspect fun tree workingDirectory => isFile tree workingDirectory file then
      relocate file destination
      return { report with movedModules := report.movedModules ++ [⟨file, destination⟩] }
    else return report

/-- Move the compiled forms of a source from the root to the source. -/
def moveModules (candidates : List FilePath) (source : FilePath) (report : CleanupReport) :
    Action CleanupReport := do
  match moduleOf? source, source.parent? with
  | some module, some directory =>
    let files := candidates.filter fun file =>
      file.fileName?.any fun name => isBuildOf name module
    files.foldlM (moveModule directory) report
  | _, _ => return report

/-- Clean up after the build of one source. -/
def cleanSource (layout : Layout) (keepCFiles : Bool) (candidates : List FilePath)
    (report : CleanupReport) (source : FilePath) : Action CleanupReport := do
  if ← inspect fun tree directory => isFile tree directory source then
    let report ← if keepCFiles then pure report else removeCFile source report
    let report ← moveReport layout source report
    moveModules candidates source report
  else
    Project.report (source.toString ++ " not found; skipping")
    return { report with skipped := report.skipped ++ [source] }

/-- Clean up after the build of the given sources. -/
def cleanUp (layout : Layout) (sources : List FilePath) (keepCFiles : Bool) :
    Action CleanupReport := do
  createDirectory (.createAnnotations layout.annotationsDir) layout.annotationsDir
  let report ← removeBuildDir layout {}
  let candidates ← rootFiles layout.root
  sources.foldlM (cleanSource layout keepCFiles candidates) report

end PyxProject.Project
