import PyxProject.Text.Basic

/-!
# Paths

A path is kept as it was written, because it is shown as it was written. Its
meaning is its list of components: slashes separate them, empty ones and a `.` that
is not the first are passed over, and two paths are the same when their components
are. Every operation that shortens a path cuts its text at the end of a component.
-/

namespace PyxProject.Files

/-- A path as it was written. -/
structure FilePath where
  text : Text
deriving DecidableEq, Repr

/-- A component of a path. -/
inductive Component where
  /-- The slash that an absolute path starts with. -/
  | root
  /-- A `.` at the start of a path. -/
  | current
  /-- A `..` anywhere. -/
  | parent
  /-- A name. -/
  | name (name : Text)
deriving DecidableEq, Repr

/-- A component with the positions in the text at which it starts and stops. -/
structure Piece where
  component : Component
  start : Nat
  stop : Nat
deriving DecidableEq, Repr

namespace FilePath

/-- A path given by a literal. -/
instance : Coe String FilePath := ⟨fun text => ⟨text.toList⟩⟩

/-- The path as a string. -/
def toString (path : FilePath) : String := String.ofList path.text

/-- A path is shown as its text. -/
instance : ToString FilePath := ⟨toString⟩

/-- Whether a path starts at the root. -/
def isAbsolute (path : FilePath) : Bool := path.text.head? == some '/'

/-- The component that a segment between slashes stands for, if any. -/
def component? (first : Bool) (segment : Text) : Option Component :=
  if segment = [] then none
  else if segment = "." then (if first then some .current else none)
  else if segment = ".." then some .parent
  else some (.name segment)

/-- The components of segments between slashes, the first of which starts at the
given position. -/
def piecesFrom (position : Nat) : List Text → List Piece
  | [] => []
  | segment :: rest =>
    let following := piecesFrom (position + segment.length + 1) rest
    match component? (position == 0) segment with
    | some component => ⟨component, position, position + segment.length⟩ :: following
    | none => following

/-- The components of a path with their positions. -/
def pieces (path : FilePath) : List Piece :=
  let body := piecesFrom 0 (path.text.splitOn '/')
  if path.isAbsolute then ⟨.root, 0, 1⟩ :: body else body

/-- The components of a path. -/
def components (path : FilePath) : List Component := path.pieces.map Piece.component

/-- Whether two paths have the same components. -/
def same (path other : FilePath) : Bool := path.components == other.components

/-- The last component, if it is a name, with its position. -/
def lastName? (path : FilePath) : Option (Text × Nat) :=
  match path.pieces.getLast? with
  | some ⟨.name name, start, _⟩ => some (name, start)
  | _ => none

/-- The name of the file that a path leads to. -/
def fileName? (path : FilePath) : Option Text := path.lastName?.map Prod.fst

/-- A file name cut at its last dot. A dot at the very start does not count. -/
def splitName (name : Text) : Text × Option Text :=
  let after := (name.reverse.takeWhile (· != '.')).reverse
  let before := name.take (name.length - after.length - 1)
  if before = [] then (name, none) else (before, some after)

/-- The file name without its extension. -/
def stem? (path : FilePath) : Option Text := path.fileName?.map fun name => (splitName name).1

/-- The extension of the file name. -/
def extension? (path : FilePath) : Option Text := path.fileName?.bind fun name => (splitName name).2

/-- The path without as many characters at its end as its extension has. If no slash
follows the file name, these are the extension. -/
def withoutExtension (path : FilePath) : FilePath :=
  match path.extension? with
  | some extension => ⟨path.text.take (path.text.length - extension.length)⟩
  | none => path

/-- The path with another extension: the old one is cut off, and the new one is put
after the stem of what is left. Where nothing with a file name is left it stays at
that, which happens to a path without a file name, and to one whose file name has
the stem `.` and ends the path. -/
def withExtension (path : FilePath) (extension : Text) : FilePath :=
  let bare := path.withoutExtension
  match bare.lastName? with
  | some (name, start) =>
    ⟨bare.text.take (start + (splitName name).1.length) ++ "." ++ extension⟩
  | none => bare

/-- The path without its last component. The root has none, and neither has the
empty path. -/
def parent? (path : FilePath) : Option FilePath :=
  match path.pieces.reverse with
  | [] => none
  | last :: before =>
    if last.component = .root then none
    else some ⟨path.text.take ((before.head?.map Piece.stop).getD 0)⟩

/-- A path followed by its parent, the parent of that, and so on. -/
def ancestors (path : FilePath) : List FilePath :=
  match path.pieces with
  | [] => [path]
  | first :: rest =>
    path :: ((first :: rest).dropLast.reverse.map fun piece => ⟨path.text.take piece.stop⟩) ++
      if first.component = .root then [] else [⟨[]⟩]

/-- A path taken relative to another one. An absolute path stays as it is. -/
def join (base path : FilePath) : FilePath :=
  if path.isAbsolute then path
  else if base.text = [] ∨ base.text.getLast? = some '/' then ⟨base.text ++ path.text⟩
  else ⟨base.text ++ "/" ++ path.text⟩

/-- What is left of a path after the components of a base, if it starts with them. -/
def relativeTo? (path base : FilePath) : Option FilePath :=
  if base.components.isPrefixOf path.components then
    match path.pieces.drop base.pieces.length with
    | [] => some ⟨[]⟩
    | first :: rest =>
      let stop := ((first :: rest).getLast?.map Piece.stop).getD 0
      some ⟨(path.text.take stop).drop first.start⟩
  else none

end FilePath

/-- The order of components: the root, `.`, `..`, then names by their characters. -/
def Component.compare : Component → Component → Ordering
  | .name first, .name second => compareOfLessAndEq first second
  | first, second => Ord.compare (rank first) (rank second)
where
  /-- The place of a component among the four sorts. -/
  rank : Component → Nat
    | .root => 0
    | .current => 1
    | .parent => 2
    | .name _ => 3

/-- The order of paths, component by component. -/
def FilePath.compare (path other : FilePath) : Ordering :=
  List.compareLex Component.compare path.components other.components

/-- Sort paths. -/
def sortPaths (paths : List FilePath) : List FilePath :=
  paths.mergeSort fun path other => (path.compare other).isLE

end PyxProject.Files
