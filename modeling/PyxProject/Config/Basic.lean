import PyxProject.Text.Basic

/-!
# Configuration

What a project may configure, and the values that hold where it configures nothing.
-/

namespace PyxProject

/-- The configuration of a project. -/
structure Config where
  /-- Directory for sources of extensions. -/
  extensionsDir : Text := "ext"
  /-- Directory for reports, relative to the directory for sources. -/
  annotationsDir : Text := "annotations"
  /-- Whether builds see the headers of numpy. -/
  includeNumpy : Bool := false
  /-- The interpreter to build with. -/
  python? : Option Text := none
  /-- Names of directories that hold no sources. -/
  exclude : List Text := []
deriving DecidableEq, Repr

end PyxProject
