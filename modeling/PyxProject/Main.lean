import PyxProject.Command.Run

/-!
# The program

The outer layer: it copies the working directory, and what a run may look at
elsewhere, into a file tree, carries out the command line on the tree, and brings
the changes of the tree back. Nothing is decided here.

Programs are not started. An interpreter is a plain file to this layer, so a build
reports that it may not be started. Links are copied with the place that they lead
to.
-/

namespace PyxProject.Main

open Files Project

/-- The path of a location on the disk. -/
def diskPath (location : Location) : String := "/" ++ String.ofList (Text.join "/" location)

/-- The location of an absolute path. -/
def locationOf (path : String) : Location :=
  (path.toList.splitOn '/').filter (· ≠ [])

/-- Put the directories on the way to a location. -/
def putAncestors (tree : FileTree) (location : Location) : FileTree :=
  (List.range (location.length - 1)).foldl
    (fun tree depth => tree.put (location.take (depth + 1)) .directory) tree

/-- Copy what is at a location, with everything below it. What cannot be read is left
out. -/
partial def copyIn (tree : FileTree) (location : Location) : IO FileTree := do
  let path := (← IO.currentDir) / diskPath location
  try
    match (← path.symlinkMetadata).type with
    | .dir =>
      let entries ← path.readDir
      entries.foldlM (fun tree entry => copyIn tree (location ++ [entry.fileName.toList]))
        (tree.put location .directory)
    | .file => return tree.put location (.file (← IO.FS.readBinFile path))
    | .symlink => return tree.put location (.link (← IO.FS.realPath path).toString.toList)
    | .other => return tree.put location .device
  catch _ => return tree

/-- Copy one file from outside the working directory. -/
def copyFileIn (host : Host) (tree : FileTree) (path : FilePath) : IO FileTree := do
  let location := locationOf (host.directory.join path).toString
  if (tree.get? location).isSome then return tree
  let disk := (← IO.currentDir) / diskPath location
  if ← disk.pathExists then
    if ← disk.isDir then return tree
    return (putAncestors tree location).put location (.file (← IO.FS.readBinFile disk))
  return tree

/-- The files outside the working directory that a run may look at. -/
def outsideFiles (host : Host) (arguments : List Text) : List FilePath :=
  let custom := match Command.readArguments arguments with
    | .ok (globals, _) => (globals.config?.map FilePath.mk).toList
    | .error _ => []
  custom ++ Config.candidates host host.directory ++
    host.searchPath.flatMap fun directory =>
      Build.usualNames.map fun name => directory.join ⟨name⟩

/-- Put the directory for temporary files, if there is one on the disk. -/
def putTemporary (host : Host) (tree : FileTree) : IO FileTree := do
  let location := locationOf host.temporary.toString
  let disk := (← IO.currentDir) / diskPath location
  if (tree.get? location).isNone && (← disk.isDir) then
    return (putAncestors tree location).put location .directory
  return tree

/-- Write a node to the disk. A link is written as a copy of what it leads to. -/
def writeNode (path : String) : Node → IO Unit
  | .directory => IO.FS.createDirAll path
  | .file content _ => IO.FS.writeBinFile path content
  | .link target => do IO.FS.writeBinFile path (← IO.FS.readBinFile (String.ofList target))
  | .program _ | .device => return ()

/-- Bring the changes of a tree to the disk: first what is new, then what is gone, from
the deepest places up. -/
def copyOut (before after : FileTree) : IO Unit := do
  for (location, node) in after.entries do
    if before.get? location ≠ some node then writeNode (diskPath location) node
  for (location, node) in before.entries.reverse do
    if after.get? location = none then
      if node = .directory then IO.FS.removeDir (diskPath location)
      else IO.FS.removeFile (diskPath location)

/-- The part of a text from one position to another. -/
def between (text : String) (start stop : Nat) : String :=
  String.ofList ((text.toList.take stop).drop start)

/-- Carry out a command line on a tree, given the lines of input that are known and how
much of the output has been shown. When it asks for a further line, the output up to
the question is shown, a line is read, and the command line is carried out again: up
to the question it does the same. -/
partial def converse (host : Host) (arguments : List Text) (tree : FileTree) (lines : List String)
    (shown : Nat) : IO (Nat × Session) := do
  let (code, session) := Command.run host arguments { tree, input := (String.join lines).toList }
  match session.questions[lines.length]? with
  | some position =>
    IO.print (between session.out shown position)
    (← IO.getStdout).flush
    let line ← (← IO.getStdin).getLine
    converse host arguments tree (lines ++ [line]) position
  | none =>
    IO.print (between session.out shown session.out.length)
    IO.eprint session.err
    return (code, session)

/-- The environment variables that a run may look at. -/
def variableNames : List String :=
  ["HOME", "XDG_CONFIG_HOME", "PATH", "TMPDIR", "PYTHON", "CYBUILDER_DEBUG"] ++
    compilerVariables.map String.ofList

/-- The surroundings of this run. -/
def readHost : IO Host := do
  let environment ← variableNames.filterMapM fun name => do
    return (← IO.getEnv name).map fun value => (name.toList, value.toList)
  let nonce ← IO.rand 100000 999999
  return {
    directory := ⟨(← IO.currentDir).toString.toList⟩
    environment
    nonce := (toString nonce).toList }

end PyxProject.Main

open PyxProject PyxProject.Main in
/-- Run the program in the working directory. -/
def main (arguments : List String) : IO UInt32 := do
  let arguments := arguments.map String.toList
  let host ← readHost
  let here := locationOf host.directory.toString
  let inside ← copyIn (putAncestors Files.FileTree.empty here) here
  let outside ← (outsideFiles host arguments).foldlM (copyFileIn host) inside
  let before ← putTemporary host outside
  let (code, session) ← converse host arguments before [] 0
  copyOut before session.tree
  return code.toUInt32
