import PyxProject.Command.Arguments

/-!
# Help and completion

The texts that describe the command line to a user and to a shell. Both are made
from the same tables that the command line is read with.
-/

namespace PyxProject.Command

/-- The name and the version of the program. -/
def versionLine : String := "cybuilder 0.1.0"

/-- What a command is for. -/
def Name.purpose : Name → String
  | .init => "Initialize cybuilder (create the extension directories)"
  | .list => "List all .pyx files"
  | .build => "Compile .pyx files, clean up and generate .pyi files"
  | .clean => "Remove build intermediates and move artifacts next to their sources"
  | .interface => "Generate .pyi interface files"
  | .completion => "Generate shell completion scripts"

/-- The overview of the program. -/
def helpText : String :=
  "Build Cython extensions and generate .pyi interface files\n\n" ++
    "Usage: cybuilder [OPTIONS] <COMMAND>\n\nCommands:\n" ++
    String.join (Name.all.map fun name =>
      "  " ++ String.ofList name.text ++ "  " ++ name.purpose ++ "\n") ++
    "\nOptions:\n" ++
    String.join (globalSwitches.map fun switch => "  --" ++ String.ofList switch.long ++ "\n") ++
    "  --config <PATH>\n"

/-- What is said about a command line that cannot be read. -/
def usageText : String :=
  "error: the command line could not be read\n\nUsage: cybuilder [OPTIONS] <COMMAND>\n\n" ++
    "For more information, try '--help'.\n"

/-- The names of the commands with a blank between neighbours. -/
def commandWords : String := " ".intercalate (Name.all.map fun name => String.ofList name.text)

/-- The completion script for a shell: it offers the names of the commands. -/
def completionScript : Shell → String
  | .bash => "complete -W '" ++ commandWords ++ "' cybuilder\n"
  | .elvish => "set edit:completion:arg-completer[cybuilder] = " ++
      "\x7b|@words| put " ++ commandWords ++ " \x7d\n"
  | .fish => "complete -c cybuilder -f -a '" ++ commandWords ++ "'\n"
  | .powershell => "Register-ArgumentCompleter -Native -CommandName 'cybuilder' -ScriptBlock " ++
      "\x7b '" ++ commandWords ++ "' -split ' ' \x7d\n"
  | .zsh => "#compdef cybuilder\n_arguments '1: :(" ++ commandWords ++ ")'\n"

end PyxProject.Command
