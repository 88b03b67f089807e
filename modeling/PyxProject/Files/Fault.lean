import PyxProject.Files.Path
import PyxProject.Text.Shown

/-!
# Why a file operation fails

The causes for which the operating system refuses an operation, and the few that
are found before it is asked.
-/

namespace PyxProject.Files

/-- Why a file operation fails. -/
inductive Fault where
  | notFound
  /-- A file that may be started holds no program. -/
  | notAProgram
  | permissionDenied
  | busy
  | alreadyExists
  | notADirectory
  | isADirectory
  | invalidArgument
  | nameTooLong
  | tooManyLinks
  /-- A file to be read as text is not UTF-8. -/
  | notUtf8
  /-- A path holds the character NUL. -/
  | nulInPath
  /-- What a program is to be started with holds the character NUL. -/
  | nulInCommand
  /-- No ancestor of a directory to be created can be created. -/
  | noAncestor
  /-- A fault while a temporary file or directory with the given path was made. -/
  | atPath (fault : Fault) (path : FilePath)
deriving DecidableEq, Repr

/-- The message for a fault. -/
def Fault.message : Fault → String
  | .notFound => "No such file or directory (os error 2)"
  | .notAProgram => "Exec format error (os error 8)"
  | .permissionDenied => "Permission denied (os error 13)"
  | .busy => "Device or resource busy (os error 16)"
  | .alreadyExists => "File exists (os error 17)"
  | .notADirectory => "Not a directory (os error 20)"
  | .isADirectory => "Is a directory (os error 21)"
  | .invalidArgument => "Invalid argument (os error 22)"
  | .nameTooLong => "File name too long (os error 36)"
  | .tooManyLinks => "Too many levels of symbolic links (os error 40)"
  | .notUtf8 => "stream did not contain valid UTF-8"
  | .nulInPath => "file name contained an unexpected NUL byte"
  | .nulInCommand => "nul byte found in provided data"
  | .noAncestor => "failed to create whole tree"
  | .atPath fault path =>
    fault.message ++ " at path " ++ String.ofList (Text.shown path.text)

end PyxProject.Files
