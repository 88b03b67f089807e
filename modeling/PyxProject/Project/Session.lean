import PyxProject.Files.Operation
import PyxProject.Project.Failure
import PyxProject.Project.Host
import PyxProject.Text.Lines

/-!
# Sessions

A session is what a run changes: the file tree, what is left of standard input, what
has been written to standard output and standard error, and a record of the
programs that were run. An action changes the session and gives a value or a
failure; what it did before it failed stays done.
-/

namespace PyxProject.Project

open Files

/-- The state of a run. -/
structure Session where
  tree : FileTree
  /-- What is left of standard input. -/
  input : Text := []
  /-- How much had been written to standard output each time a line was taken from
  standard input. -/
  questions : List Nat := []
  /-- What was written to standard output. -/
  out : String := ""
  /-- What was written to standard error. -/
  err : String := ""
  /-- What programs were run, as they saw it. -/
  record : List Text := []
deriving DecidableEq

/-- A step of a run. -/
abbrev Action := ReaderT Host (ExceptT Failure (StateM Session))

/-- The outcome of an action and the session after it. -/
def Action.perform {α : Type} (action : Action α) (host : Host) (session : Session) :
    Except Failure α × Session :=
  ((action.run host).run).run session

/-- Write to standard output. -/
def print (text : String) : Action Unit :=
  modify fun session => { session with out := session.out ++ text }

/-- Write a line to standard output. -/
def printLine (text : String) : Action Unit := print (text ++ "\n")

/-- Write to standard error. -/
def complain (text : String) : Action Unit :=
  modify fun session => { session with err := session.err ++ text }

/-- Write a line to standard error. -/
def complainLine (text : String) : Action Unit := complain (text ++ "\n")

/-- Report what is done, if that is asked for. -/
def report (text : String) : Action Unit := do
  if (← read).debug then complainLine ("[DEBUG] " ++ text)

/-- Take a line from standard input, with its line end. -/
def takeLine : Action Text := do
  let input := (← get).input
  let line := input.takeWhile (· != '\n')
  let rest := input.drop line.length
  modify fun session => { session with
    input := rest.drop 1
    questions := session.questions ++ [session.out.length] }
  return line ++ rest.take 1

/-- Add entries to the record of programs, which is kept by lines. -/
def recordLines (entries : List Text) : Action Unit :=
  modify fun session => { session with
    record := session.record ++ Text.lines (Text.unlines entries) }

/-- Look at the file tree from the working directory. -/
def inspect {α : Type} (query : FileTree → FilePath → α) : Action α := do
  return query (← get).tree (← read).directory

/-- Carry out a file operation that succeeds or changes nothing. -/
def change (attempt : Attempt) (operation : FileTree → FilePath → Except Fault FileTree) :
    Action Unit := do
  match ← inspect operation with
  | .ok tree => modify fun session => { session with tree := tree }
  | .error fault => throw (.fileOperation attempt fault)

/-- Create a directory with the ancestors that it lacks. -/
def createDirectory (attempt : Attempt) (path : FilePath) : Action Unit := do
  let (outcome, tree) := makeDirectoryTree (← read).directory path (← get).tree
  modify fun session => { session with tree := tree }
  match outcome with
  | .ok () => return ()
  | .error fault => throw (.fileOperation attempt fault)

end PyxProject.Project
