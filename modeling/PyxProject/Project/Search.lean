import PyxProject.Project.Filter
import PyxProject.Project.Session

/-!
# Finding the sources of a project

The directories of a project are visited from the top, in order of their names.
Some are not entered: hidden ones, those that the configuration excludes, the
directory for intermediate files if it lies at the top, and virtual environments.
Links are not followed. What is looked for are the regular files with the extension
of sources.
-/

namespace PyxProject.Project

open Files

/-- The file that marks a directory as a virtual environment. -/
def environmentMarker : Text := "pyvenv.cfg"

/-- Whether a directory is entered. -/
inductive Verdict where
  | enter
  | skip
  | skipEnvironment
deriving DecidableEq, Repr

/-- Whether the directory at a location below the top is entered. -/
def verdict (tree : FileTree) (top : Location) (exclude : List Text) (location : Location) :
    Verdict :=
  let name := location.getLast?.getD []
  if name.head? = some '.' ∨ exclude.contains name then .skip
  else if location = [buildName] then .skip
  else match follow tree [] (top ++ location ++ [environmentMarker]) with
    | .ok marker =>
      match tree.get? marker with
      | some (.file _ _) | some (.program _) => .skipEnvironment
      | _ => .enter
    | .error _ => .enter

/-- What is met on a visit. -/
inductive Encounter where
  | source (location : Location)
  | environment (location : Location)
deriving DecidableEq, Repr

/-- Whether a file of this name is a source. -/
def isSourceName (name : Text) : Bool := (FilePath.splitName name).2 == some sourceExtension

/-- Visit entries in order. While a directory that is not entered is remembered, the
entries below it are passed over. -/
def visit (judge : Location → Verdict) : Option Location → List Entry → List Encounter
  | _, [] => []
  | closed?, (location, node) :: rest =>
    if closed?.any fun closed => closed.isPrefixOf location then visit judge closed? rest
    else match node with
      | .directory =>
        match judge location with
        | .enter => visit judge none rest
        | .skip => visit judge (some location) rest
        | .skipEnvironment => .environment location :: visit judge (some location) rest
      | .file _ _ | .program _ =>
        if isSourceName (location.getLast?.getD []) then
          .source location :: visit judge none rest
        else visit judge none rest
      | .link _ | .device => visit judge none rest

/-- The path of a location below a path. -/
def pathBelow (root : FilePath) (location : Location) : FilePath :=
  location.foldl (fun path name => path.join ⟨name⟩) root

/-- What is met on a visit to the directory at a location. -/
def encounters (tree : FileTree) (top : Location) (exclude : List Text) : List Encounter :=
  visit (verdict tree top exclude) none (tree.below top)

/-- The sources among what was met, in order of their paths. -/
def sourcePaths (root : FilePath) (met : List Encounter) : List FilePath :=
  sortPaths (met.filterMap fun
    | .source location => some (pathBelow root location)
    | .environment _ => none)

/-- The location of the directory that a path leads to. -/
def directory? (tree : FileTree) (directory path : FilePath) : Option Location :=
  match resolve tree directory path with
  | .ok location => if tree.holdsDirectory location then some location else none
  | .error _ => none

/-- Find the sources below a root that the given names stand for. -/
def discover (root : FilePath) (names exclude : List Text) : Action Selection := do
  match ← inspect fun tree directory => directory? tree directory root with
  | none => throw (.rootNotFound root)
  | some top =>
    let met := encounters (← get).tree top exclude
    met.forM fun
      | .environment location =>
        report ("skipping virtual environment " ++ (pathBelow root location).toString)
      | .source _ => return ()
    let selection := choose names (sourcePaths root met)
    report (s!"discovered {selection.sources.length} source(s) under " ++ root.toString)
    return selection

end PyxProject.Project
