import PyxProject.Files.Path
import PyxProject.Text.Lines
import PyxProject.Text.Quoted

/-!
# The setup script of a build

The compiler is driven by a short script that lists every extension with its source.
Names and paths enter the script as double-quoted literals only.
-/

namespace PyxProject.Build

open Files

/-- An extension module and the source that it is built from. -/
structure Extension where
  name : Text
  source : FilePath
deriving DecidableEq, Repr

/-- A truth value as it is written in the script. -/
def truth (value : Bool) : Text := if value then "True" else "False"

/-- The line of the script that lists an extension. -/
def Extension.scriptLine (extension : Extension) : Text :=
  "    Extension(name=" ++ Text.quote extension.name ++ ", sources=[" ++
    Text.quote extension.source.text ++ "], include_dirs=include_dirs),"

/-- The lines of the script before the list of extensions. -/
def openingLines (includeDirs : List FilePath) (annotate : Bool) : List Text :=
  ["from setuptools import setup, Extension",
   "from Cython.Build import cythonize",
   "import Cython.Compiler.Options",
   "",
   "Cython.Compiler.Options.annotate = " ++ truth annotate,
   "include_dirs = [" ++ Text.join ", " (includeDirs.map fun dir => Text.quote dir.text) ++ "]",
   "",
   "ext_modules = ["]

/-- The lines of the script after the list of extensions. -/
def closingLines (annotate : Bool) : List Text :=
  ["]",
   "",
   "setup(ext_modules=cythonize(ext_modules, annotate=" ++ truth annotate ++ "))"]

/-- The lines of the script that builds the given extensions. -/
def scriptLines (extensions : List Extension) (includeDirs : List FilePath) (annotate : Bool) :
    List Text :=
  openingLines includeDirs annotate ++ extensions.map Extension.scriptLine ++ closingLines annotate

/-- The script that builds the given extensions. -/
def scriptText (extensions : List Extension) (includeDirs : List FilePath) (annotate : Bool) :
    Text :=
  Text.unlines (scriptLines extensions includeDirs annotate)

end PyxProject.Build
