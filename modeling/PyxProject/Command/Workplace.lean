import PyxProject.Config.Loading
import PyxProject.Project.Search
import PyxProject.Text.Lowercase

/-!
# The project that a command works on

A command works on the project in the working directory. Before it touches files it
shows them and asks, unless it was told not to; any answer but yes means no.
-/

namespace PyxProject.Command

open Files Project

/-- A project with its configuration. -/
structure Workplace where
  config : Config
  layout : Layout
deriving DecidableEq, Repr

/-- The project in the working directory. -/
def Workplace.load (custom? : Option FilePath) (norc : Bool) : Action Workplace := do
  let root := (← read).directory
  let config ← Config.load root custom? norc
  return { config, layout := Layout.of root config }

/-- A path as it is shown: relative to the root of the project, if it lies there. -/
def Workplace.shown (workplace : Workplace) (path : FilePath) : String :=
  ((path.relativeTo? workplace.layout.root).getD path).toString

/-- The sources that the given names stand for. Names that stand for none are
reported. -/
def Workplace.sources (workplace : Workplace) (names : List Text) : Action (List FilePath) := do
  let selection ← discover workplace.layout.root names workplace.config.exclude
  if selection.missing ≠ [] then
    complainLine ("warning: cannot find provided target files: " ++
      String.ofList (Text.join ", " selection.missing))
  return selection.sources

/-- Show sources, one to a line. -/
def Workplace.show (workplace : Workplace) (sources : List FilePath) : Action Unit :=
  sources.forM fun source => printLine ("  - " ++ workplace.shown source)

/-- Whether an answer means yes. -/
def meansYes (answer : Text) : Bool :=
  let word := Text.lowercase (Text.trim answer)
  word == "y" || word == "yes"

/-- Ask a question and take the answer from standard input. -/
def ask (question : String) : Action Bool := do
  print (question ++ " [y/N] ")
  let accepted := meansYes (← takeLine)
  if !accepted then printLine "Cancelled."
  return accepted

/-- Ask whether to go on with the given sources, unless consent was given before. -/
def Workplace.askConsent (workplace : Workplace) (action : String) (sources : List FilePath)
    (accept : Bool) : Action Bool := do
  if accept then return true
  printLine (s!"About to {action} {sources.length} pyx file(s):")
  workplace.show sources
  ask "Continue?"

end PyxProject.Command
