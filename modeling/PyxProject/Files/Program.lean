import PyxProject.Text.Basic

/-!
# Programs in a file tree

An executable file is known by what it does when it is run. Asked for the headers
of numpy it prints a directory or fails; given a script it creates and removes
files, prints, and ends with a status.
-/

namespace PyxProject.Files

/-- Contents of files are compared byte by byte. -/
instance decidableEqContent : DecidableEq ByteArray := ByteArray.instDecidableEq

/-- What an executable file does. -/
structure Program where
  /-- The directory of the headers of numpy, if numpy is installed. -/
  numpy? : Option Text := none
  /-- The exit code of a run; a negative one is the signal that ends it. -/
  status : Int := 0
  /-- What a run prints to standard output. -/
  out : Text := []
  /-- What a run prints to standard error. -/
  err : Text := []
  /-- The files that a run writes, by their absolute paths. -/
  creates : List (Text × ByteArray) := []
  /-- The files that a run deletes, by their absolute paths. -/
  removes : List Text := []
  /-- The time that a run is reported to take, in seconds. -/
  seconds : Text := "0.0"
deriving DecidableEq

end PyxProject.Files
