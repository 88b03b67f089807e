import PyxProject.Files.Fault
import PyxProject.Source.Error

/-!
# Why a run fails

Every failure of a run has a message and may have a cause with a message of its own.
The messages of a failure are listed from the outermost to the innermost.
-/

namespace PyxProject.Project

open Files

/-- Why a stub file is not written. -/
inductive StubFailure where
  | read (path : FilePath) (fault : Fault)
  | write (path : FilePath) (fault : Fault)
  /-- The source is refused. -/
  | content (path : FilePath) (error : Source.Error)
deriving DecidableEq, Repr

/-- The message for a stub that is not written. -/
def StubFailure.message : StubFailure → String
  | .read path fault => "Failed to read " ++ path.toString ++ ": " ++ fault.message
  | .write path fault => "Failed to write " ++ path.toString ++ ": " ++ fault.message
  | .content path error => path.toString ++ ": " ++ error.message

/-- The messages for a stub that is not written and for their causes. -/
def StubFailure.chain (error : StubFailure) : List String :=
  error.message ::
    match error with
    | .read _ fault | .write _ fault => [fault.message]
    | .content _ error => [error.message]

/-- What was attempted when a file operation failed. -/
inductive Attempt where
  | createAnnotations (path : FilePath)
  | createExtensions (path : FilePath)
  | createParent (path : FilePath)
  | createScriptDirectory
  | readExtensions (path : FilePath)
  | readRoot (path : FilePath)
  | remove (path : FilePath)
  | copy (source destination : FilePath)
deriving DecidableEq, Repr

/-- The message for an attempt that failed. -/
def Attempt.message : Attempt → String
  | .createAnnotations path => "Failed to create annotations directory: " ++ path.toString
  | .createExtensions path => "Failed to create directory " ++ path.toString
  | .createParent path => "Failed to create directory: " ++ path.toString
  | .createScriptDirectory => "Failed to create a directory for the setup script"
  | .readExtensions path => "Failed to read directory " ++ path.toString
  | .readRoot path => "Failed to read project directory: " ++ path.toString
  | .remove path => "Failed to remove " ++ path.toString
  | .copy source destination =>
    "Failed to copy " ++ source.toString ++ " to " ++ destination.toString

/-- Why a compiler run did not succeed. -/
inductive BuildError where
  | notStarted (interpreter : FilePath) (fault : Fault)
  /-- The run ended with an exit code, or by a signal. -/
  | ended (code? : Option Nat)
deriving DecidableEq, Repr

/-- The message for a compiler run that did not succeed. -/
def BuildError.message : BuildError → String
  | .notStarted interpreter fault =>
    "Failed to run " ++ interpreter.toString ++ ": " ++ fault.message
  | .ended (some code) => s!"build_ext failed with exit code: {code}"
  | .ended none => "build_ext failed with exit code: unknown"

/-- Why a run fails. -/
inductive Failure where
  | configUnreadable (path : FilePath) (fault : Fault)
  | configMalformed (path : FilePath)
  /-- The interpreter that was asked for, or any interpreter, is missing. -/
  | interpreterMissing (requested? : Option Text)
  | interpreterNotStarted (fault : Fault)
  | numpyMissing (interpreter : FilePath)
  | numpyNowhere
  /-- Numpy was asked for and its headers were not found. -/
  | numpyRequired (cause : Failure)
  | numpyRequested (interpreter : FilePath)
  | rootNotFound (path : FilePath)
  | nothingToBuild
  | namelessSource (path : FilePath)
  | buildFailed (error : BuildError)
  | fileOperation (attempt : Attempt) (fault : Fault)
  | stub (error : StubFailure)
  /-- The build succeeded and the cleanup after it failed. -/
  | cleanupAfterBuild (cause : Failure)
  /-- The build succeeded and a stub after it was not written. -/
  | stubsAfterBuild (cause : Failure)
deriving DecidableEq, Repr

/-- The messages for a failure and for its causes, outermost first. -/
def Failure.chain : Failure → List String
  | .configUnreadable path fault =>
    ["Failed to read config file " ++ path.toString, fault.message]
  | .configMalformed path =>
    ["Failed to parse config file " ++ path.toString, "TOML parse error"]
  | .interpreterMissing requested? =>
    ["Python interpreter not found. Building extensions requires Python with Cython and " ++
      "setuptools.",
     match requested? with
     | some name => "Requested interpreter '" ++ String.ofList name ++ "' does not exist"
     | none => "Neither python3 nor python found in PATH"]
  | .interpreterNotStarted fault => ["Failed to run the Python interpreter", fault.message]
  | .numpyMissing interpreter => ["numpy is not installed for " ++ interpreter.toString]
  | .numpyNowhere => ["numpy reported an empty include directory"]
  | .numpyRequired cause =>
    "numpy is required (--include-numpy) but could not be found" :: cause.chain
  | .numpyRequested interpreter =>
    ["numpy is requested but not installed for " ++ interpreter.toString ++
      ". Please install numpy and try again"]
  | .rootNotFound path => ["Project root " ++ path.toString ++ " is not a directory"]
  | .nothingToBuild => ["No sources to build"]
  | .namelessSource path => ["Source " ++ path.toString ++ " has no usable module name"]
  | .buildFailed error => ["Build failed: " ++ error.message]
  | .fileOperation attempt fault => [attempt.message, fault.message]
  | .stub error => error.chain
  | .cleanupAfterBuild cause => "Cleanup after build failed" :: cause.chain
  | .stubsAfterBuild cause => "Generating interface files failed" :: cause.chain

end PyxProject.Project
