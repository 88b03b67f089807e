import PyxProject.Config.Basic
import PyxProject.Files.Path

/-!
# Where things lie in a project

The directories of a project follow from its root and its configuration. The files
that the compiler leaves beside a source are named after it: its C file, its report
in HTML, and compiled modules that may carry a tag between name and extension.
-/

namespace PyxProject.Project

open Files

/-- The directories of a project. -/
structure Layout where
  /-- The directory that a build runs in. -/
  root : FilePath
  /-- The directory for sources of extensions. -/
  extensionsDir : FilePath
  /-- The directory that collects the reports. -/
  annotationsDir : FilePath
  /-- The directory that the build tool keeps its intermediate files in. -/
  buildDir : FilePath
deriving DecidableEq, Repr

/-- The name of the directory for intermediate files. -/
def buildName : Text := "build"

/-- The layout of the project at a root. -/
def Layout.of (root : FilePath) (config : Config) : Layout :=
  let extensionsDir := root.join ⟨config.extensionsDir⟩
  { root
    extensionsDir
    annotationsDir := extensionsDir.join ⟨config.annotationsDir⟩
    buildDir := root.join ⟨buildName⟩ }

/-- The extension of source files. -/
def sourceExtension : Text := "pyx"

/-- The name of the module that a source is compiled to. -/
def moduleOf? (source : FilePath) : Option Text := source.stem?

/-- The C file of a source. -/
def cFile (source : FilePath) : FilePath := source.withExtension "c"

/-- The report on a source, beside it. -/
def htmlFile (source : FilePath) : FilePath := source.withExtension "html"

/-- The stub of a source, beside it. -/
def stubFile (source : FilePath) : FilePath := source.withExtension "pyi"

/-- Where the report on a source is collected. -/
def Layout.reportDestination (layout : Layout) (source : FilePath) : FilePath :=
  match (htmlFile source).fileName? with
  | some name => layout.annotationsDir.join ⟨name⟩
  | none => htmlFile source

/-- The extensions of compiled modules. -/
def compiledExtensions : List Text := ["so", "pyd"]

/-- Whether a file is a compiled form of a module: the name of the module, a dot,
and at the end one of the extensions of compiled modules. -/
def isBuildOf (fileName module : Text) : Bool :=
  match if Text.startsWith fileName module then fileName.drop module.length else [] with
  | '.' :: rest =>
    compiledExtensions.contains (((rest.splitOn '.').getLast?).getD [])
  | _ => false

end PyxProject.Project
