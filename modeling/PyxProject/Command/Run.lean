import PyxProject.Command.Help
import PyxProject.Command.Tasks

/-!
# Running a command line

A command line is read and carried out. The exit code is zero on success, one if the
task fails, whose failure is then reported with its causes, and two if the command
line cannot be read.
-/

namespace PyxProject.Command

open Files Project

/-- Whether the environment asks for reports on what is done. -/
def debugRequested (host : Host) : Bool :=
  match host.value? "CYBUILDER_DEBUG" with
  | some value =>
    let word := Text.lowercase value
    word == "1" || word == "true" || word == "yes"
  | none => false

/-- Carry out a task on a project. -/
def runTask (workplace : Workplace) : Task → Action Unit
  | .init => runInit workplace
  | .list files json => runList workplace files json
  | .build files arguments => runBuild workplace files arguments
  | .clean files keepCFiles accept => runClean workplace files keepCFiles accept
  | .interface files accept => runInterface workplace files accept
  | .completion shell => print (completionScript shell)

/-- Carry out a task in the working directory. A completion script needs no project. -/
def runRequest (globals : Globals) : Task → Action Unit
  | .completion shell => print (completionScript shell)
  | task => do
    let workplace ← Workplace.load (globals.config?.map FilePath.mk) globals.norc
    runTask workplace task

/-- The lines in which a failure is reported. -/
def failureText (failure : Failure) : String :=
  match failure.chain with
  | [] => ""
  | message :: causes =>
    "error: " ++ message ++ "\n" ++
      String.join (causes.map fun cause => "caused by: " ++ cause ++ "\n")

/-- Carry out a command line. The result is the exit code and the session after it. -/
def run (host : Host) (arguments : List Text) (session : Session) : Nat × Session :=
  match readArguments arguments with
  | .error .help => (0, { session with out := session.out ++ helpText })
  | .error .version => (0, { session with out := session.out ++ versionLine ++ "\n" })
  | .error .invalid => (2, { session with err := session.err ++ usageText })
  | .ok (globals, task) =>
    let host := { host with debug := globals.debug || debugRequested host }
    match (runRequest globals task).perform host session with
    | (.ok (), session) => (0, session)
    | (.error failure, session) => (1, { session with err := session.err ++ failureText failure })

end PyxProject.Command
