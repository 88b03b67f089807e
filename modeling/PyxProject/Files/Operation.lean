import PyxProject.Files.Resolution

/-!
# File operations

Each operation takes a tree and a working directory. It either fails and leaves the
tree alone, or gives the changed tree. Only the creation of a directory together
with its ancestors is made of several steps, and may fail after some of them.
-/

namespace PyxProject.Files

/-- Create a directory. -/
def makeDirectory (tree : FileTree) (directory path : FilePath) : Except Fault FileTree := do
  match ← target tree directory path with
  | .special => throw .alreadyExists
  | .entry parent name _ =>
    match tree.get? (parent ++ [name]) with
    | some _ => throw .alreadyExists
    | none => return tree.put (parent ++ [name]) .directory

/-- Create the first of the given directories, each of which is followed by its
ancestors. A directory that is already there is no fault. -/
def makeDirectories (directory : FilePath) : List FilePath → FileTree → Except Fault Unit × FileTree
  | [], tree => (.error .noAncestor, tree)
  | path :: ancestors, tree =>
    if path.text = [] then (.ok (), tree)
    else match makeDirectory tree directory path with
      | .ok made => (.ok (), made)
      | .error .notFound =>
        match makeDirectories directory ancestors tree with
        | (.error fault, changed) => (.error fault, changed)
        | (.ok (), changed) => settle path changed
      | .error _ => settle path tree
where
  /-- Create a directory, or accept the one that is there. -/
  settle (path : FilePath) (tree : FileTree) : Except Fault Unit × FileTree :=
    match makeDirectory tree directory path with
    | .ok made => (.ok (), made)
    | .error fault =>
      if isDirectory tree directory path then (.ok (), tree) else (.error fault, tree)

/-- Create a directory and the ancestors that it lacks. -/
def makeDirectoryTree (directory path : FilePath) (tree : FileTree) :
    Except Fault Unit × FileTree :=
  makeDirectories directory path.ancestors tree

/-- The content of a file. -/
def readBytes (tree : FileTree) (directory path : FilePath) : Except Fault ByteArray := do
  match tree.get? (← resolve tree directory path) with
  | some (.file content _) => return content
  | some .directory => throw .isADirectory
  | some _ => return ByteArray.empty
  | none => throw .notFound

/-- The content of a file that holds text. -/
def readText (tree : FileTree) (directory path : FilePath) : Except Fault Text := do
  match String.fromUTF8? (← readBytes tree directory path) with
  | some text => return text.toList
  | none => throw .notUtf8

/-- The bytes of a text. -/
def encodeText (text : Text) : ByteArray := (String.ofList text).toUTF8

/-- The names in a directory, in order. -/
def listDirectory (tree : FileTree) (directory path : FilePath) : Except Fault (List Text) := do
  let location ← resolve tree directory path
  if tree.holdsDirectory location then return tree.names location else throw .notADirectory

/-- Delete a file or a link. -/
def removeFile (tree : FileTree) (directory path : FilePath) : Except Fault FileTree := do
  match ← target tree directory path with
  | .special => throw .isADirectory
  | .entry parent name slash =>
    match tree.get? (parent ++ [name]) with
    | none => throw .notFound
    | some .directory => throw .isADirectory
    | some _ => if slash then throw .notADirectory else return tree.erase (parent ++ [name])

/-- Delete an entry with everything below it. Of a link, only the link goes. -/
def removeTree (tree : FileTree) (directory path : FilePath) : Except Fault FileTree := do
  match ← target tree directory path with
  | .special => throw .busy
  | .entry parent name slash =>
    match tree.get? (parent ++ [name]) with
    | none => throw .notFound
    | some .directory => return tree.erase (parent ++ [name])
    | some _ => if slash then throw .notADirectory else return tree.erase (parent ++ [name])

/-- The location of the entry that a path names, if a file can take its place. -/
def replaceable (tree : FileTree) (directory path : FilePath) : Except Fault Location := do
  match ← target tree directory path with
  | .special => throw .busy
  | .entry parent name slash =>
    if slash then throw .notADirectory
    if tree.holdsDirectory (parent ++ [name]) then throw .isADirectory
    return parent ++ [name]

/-- Give a file or a link another path, in place of a file or a link that may be
there. Giving it the path that it has changes nothing. -/
def rename (tree : FileTree) (directory source destination : FilePath) : Except Fault FileTree := do
  let origin ← replaceable tree directory source
  match tree.get? origin with
  | none => throw .notFound
  | some node =>
    let goal ← replaceable tree directory destination
    if goal = origin then return tree else return (tree.erase origin).put goal node

/-- Write into the file that a path leads to, or into a new file there. A link whose
last name is missing leads to the place of that name. What is written may depend on
what is there. -/
def writeThrough (tree : FileTree) (directory path : FilePath) (written : Option Node → Node) :
    Except Fault FileTree := do
  match ← destination tree directory path with
  | .existing location =>
    match tree.get? location with
    | some .directory => throw .isADirectory
    | some .device => return tree
    | before? => return tree.put location (written before?)
  | .vacant parent name => return tree.put (parent ++ [name]) (written none)

/-- Give a file that a path leads to, or a new file there, a content. A file that may be
started stays one. -/
def writeContent (tree : FileTree) (directory path : FilePath) (content : ByteArray) :
    Except Fault FileTree :=
  writeThrough tree directory path fun before? => .file content (before?.any Node.isExecutable)

/-- Copy a file with its content and its mode. -/
def copyFile (tree : FileTree) (directory source destination : FilePath) :
    Except Fault FileTree := do
  match tree.get? (← resolve tree directory source) with
  | some (.file content executable) =>
    writeThrough tree directory destination fun _ => .file content executable
  | some (.program program) => writeThrough tree directory destination fun _ => .program program
  | _ => throw .notFound

/-- The directory in which a file is prepared before it takes its place. -/
def stagingDirectory (path : FilePath) : FilePath :=
  match path.parent? with
  | some parent => if parent.text = [] then "." else parent
  | none => "."

/-- Write a file in one step: the content is prepared in a file of another name
beside it, which then takes its place. If either step fails nothing is changed. -/
def replaceContent (tree : FileTree) (directory path : FilePath) (nonce : Text)
    (content : ByteArray) : Except Fault FileTree := do
  let staged := (directory.join (stagingDirectory path)).join ⟨".tmp" ++ nonce⟩
  match target tree directory staged with
  | .error fault => .error (.atPath fault staged)
  | .ok _ =>
    if path.text.contains (Char.ofNat 0) then throw .invalidArgument
    return tree.put (← replaceable tree directory path) (.file content)

end PyxProject.Files
