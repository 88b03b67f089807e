import PyxProject.Project.Layout

/-!
# Choosing sources by name

A filter names sources by file name, by path or by module. Each name stands for one
module, and a source is chosen when some name stands for its module.
-/

namespace PyxProject.Project

open Files

/-- The module that a name in a filter stands for. -/
def wantedModule (name : Text) : Text :=
  let fileName := (FilePath.fileName? ⟨name⟩).getD name
  (Text.before? fileName ".pyx").getD fileName

/-- What a search for sources gives. -/
structure Selection where
  /-- The sources, in order. -/
  sources : List FilePath
  /-- The names in the filter that stand for no source. -/
  missing : List Text
deriving DecidableEq, Repr

/-- Whether a source is compiled to the given module. -/
def isModule (source : FilePath) (module : Text) : Bool := moduleOf? source == some module

/-- Choose the sources that some name stands for. No names at all choose every
source. -/
def choose (names : List Text) (sources : List FilePath) : Selection :=
  if names = [] then ⟨sources, []⟩
  else
    { sources := sources.filter fun source =>
        names.any fun name => isModule source (wantedModule name)
      missing := names.filter fun name =>
        !sources.any fun source => isModule source (wantedModule name) }

end PyxProject.Project
