import PyxProject.Files.Fault
import PyxProject.Files.Tree

/-!
# From paths to locations

A path is resolved name by name from the working directory or from the root. Every
name but the last has to lead to a directory, `..` leads to the parent of the
directory that has been reached, and a symbolic link is replaced by its target. A
slash at the end of a path asks for a directory.
-/

namespace PyxProject.Files

/-- The number of links that are followed before a path is given up. -/
def maxLinks : Nat := 40

/-- The number of bytes that a name may have. -/
def maxName : Nat := 255

/-- The number of bytes that a path may have. -/
def maxPath : Nat := 4095

/-- The number of bytes of a text in UTF-8. -/
def byteLength (text : Text) : Nat :=
  text.foldl (fun length char => length + char.utf8Size) 0

/-- The names on a path. A slash at the end counts as a last name `.`. -/
def steps (text : Text) : List Text :=
  let names := (text.splitOn '/').filter (· ≠ [])
  if text.getLast? = some '/' then names.concat "." else names

/-- How far names lead. -/
inductive Progress where
  | arrived (location : Location)
  /-- A link in the given directory, and the names that are left after it. -/
  | link (directory : Location) (target : Text) (rest : List Text)
  /-- A name that the given directory does not hold, and the names after it. -/
  | missing (directory : Location) (name : Text) (rest : List Text)
  | failed (fault : Fault)

/-- Follow names up to the first link. -/
def walk (tree : FileTree) (here : Location) : List Text → Progress
  | [] => .arrived here
  | name :: rest =>
    if !tree.holdsDirectory here then .failed .notADirectory
    else if name = "." then walk tree here rest
    else if name = ".." then walk tree here.dropLast rest
    else if maxName < byteLength name then .failed .nameTooLong
    else match tree.get? (here ++ [name]) with
      | none => .missing here name rest
      | some (.link target) => .link here target rest
      | some _ => walk tree (here ++ [name]) rest

/-- Where names and links lead. -/
inductive Destination where
  /-- Something exists at the location. -/
  | existing (location : Location)
  /-- The directory exists and does not hold the name, which is the last one. -/
  | vacant (directory : Location) (name : Text)
deriving DecidableEq, Repr

/-- Follow names and links, at most the given number of links. Only the last name may
be missing. -/
def trace (tree : FileTree) : Nat → Location → List Text → Except Fault Destination
  | links, here, names =>
    match walk tree here names with
    | .arrived location => .ok (.existing location)
    | .missing directory name [] => .ok (.vacant directory name)
    | .missing _ _ _ => .error .notFound
    | .failed fault => .error fault
    | .link directory target rest =>
      match links with
      | 0 => .error .tooManyLinks
      | links + 1 =>
        let start := if target.head? = some '/' then [] else directory
        trace tree links start (steps target ++ rest)

/-- Follow names and links to something that exists. -/
def follow (tree : FileTree) (here : Location) (names : List Text) : Except Fault Location := do
  match ← trace tree maxLinks here names with
  | .existing location => return location
  | .vacant _ _ => throw .notFound

/-- What is wrong with a path before any file is looked at. -/
def checkPath (path : FilePath) : Except Fault Unit :=
  if path.text = [] then .error .notFound
  else if path.text.contains (Char.ofNat 0) then .error .nulInPath
  else if maxPath < byteLength path.text then .error .nameTooLong
  else .ok ()

/-- Where a path leads from an absolute working directory. -/
def destination (tree : FileTree) (directory path : FilePath) : Except Fault Destination := do
  checkPath path
  trace tree maxLinks [] (steps (directory.join path).text)

/-- The location that a path leads to from an absolute working directory. Something
exists there. -/
def resolve (tree : FileTree) (directory path : FilePath) : Except Fault Location := do
  checkPath path
  follow tree [] (steps (directory.join path).text)

/-- The entry that a path names, which need not exist. -/
inductive Target where
  /-- A name in a directory, written with a slash at the end or without. -/
  | entry (directory : Location) (name : Text) (slash : Bool)
  /-- A path that ends in `.` or `..`, or the root. -/
  | special

/-- The entry that a path names. Its last name is not followed. -/
def target (tree : FileTree) (directory path : FilePath) : Except Fault Target := do
  checkPath path
  let text := (directory.join path).text
  let bare := Text.dropEndWhile (· == '/') text
  let names := steps bare
  match names.getLast? with
  | none => return .special
  | some last =>
    let parent ← follow tree [] names.dropLast
    if !tree.holdsDirectory parent then throw .notADirectory
    if last = "." ∨ last = ".." then return .special
    if maxName < byteLength last then throw .nameTooLong
    return .entry parent last (bare.length < text.length)

/-- The node that a path leads to. -/
def node? (tree : FileTree) (directory path : FilePath) : Option Node :=
  match resolve tree directory path with
  | .ok location => tree.get? location
  | .error _ => none

/-- Whether a path leads to a regular file. -/
def isFile (tree : FileTree) (directory path : FilePath) : Bool :=
  match node? tree directory path with
  | some (.file _ _) | some (.program _) => true
  | _ => false

/-- Whether a path leads to a directory. -/
def isDirectory (tree : FileTree) (directory path : FilePath) : Bool :=
  node? tree directory path == some .directory

end PyxProject.Files
