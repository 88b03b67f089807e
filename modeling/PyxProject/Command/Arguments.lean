import PyxProject.Text.Basic

/-!
# The command line

A command line is a command with its own arguments, before and after which global
arguments may stand. Arguments are read from left to right on two levels, that of the
program and that of the command. A request for help is granted when it is reached,
if nothing before it was wrong.

An option with values holds the values that follow it until the next argument is
reached or the level ends, and only then are they checked.
-/

namespace PyxProject.Command

/-- An argument that is present or absent. -/
inductive Switch where
  | debug
  | backtrace
  | norc
  | json
  | includeNumpy
  | noReports
  | noInterface
  | noCleanup
  | accept
  | verbose
deriving DecidableEq, Repr

/-- An argument with values. -/
inductive Valued where
  /-- The configuration file. -/
  | config
  /-- The names of the sources to work on. -/
  | files
deriving DecidableEq, Repr

/-- The long name of a switch. -/
def Switch.long : Switch → Text
  | .debug => "debug"
  | .backtrace => "backtrace"
  | .norc => "norc"
  | .json => "json"
  | .includeNumpy => "include-numpy"
  | .noReports => "no-annotation"
  | .noInterface => "no-interface"
  | .noCleanup => "no-cleanup"
  | .accept => "accept"
  | .verbose => "verbose"

/-- The short name of a switch. -/
def Switch.short? : Switch → Option Char
  | .accept => some 'y'
  | .verbose => some 'v'
  | _ => none

/-- The long name of an argument with values. -/
def Valued.long : Valued → Text
  | .config => "config"
  | .files => "files"

/-- The commands. -/
inductive Name where
  | init
  | list
  | build
  | clean
  | interface
  | completion
deriving DecidableEq, Repr

/-- How a command is called. -/
def Name.text : Name → Text
  | .init => "init"
  | .list => "list"
  | .build => "build"
  | .clean => "clean"
  | .interface => "interface"
  | .completion => "completion"

/-- Every command. -/
def Name.all : List Name := [.init, .list, .build, .clean, .interface, .completion]

/-- The shells that a completion script can be written for. -/
inductive Shell where
  | bash
  | elvish
  | fish
  | powershell
  | zsh
deriving DecidableEq, Repr

/-- The name of a shell. -/
def Shell.text : Shell → Text
  | .bash => "bash"
  | .elvish => "elvish"
  | .fish => "fish"
  | .powershell => "powershell"
  | .zsh => "zsh"

/-- The shell of a name. -/
def Shell.ofText? (text : Text) : Option Shell :=
  [.bash, .elvish, .fish, .powershell, .zsh].find? fun shell => shell.text == text

/-- A level of the command line: that of the program, or that of a command. -/
inductive Level where
  | program
  | command (name : Name)
deriving DecidableEq, Repr

/-- The switches that every level knows. -/
def globalSwitches : List Switch := [.debug, .backtrace, .norc]

/-- The switches of a level. -/
def Level.switches : Level → List Switch
  | .program | .command .init | .command .completion => globalSwitches
  | .command .list => globalSwitches ++ [.json]
  | .command .build =>
    globalSwitches ++
      [.includeNumpy, .noReports, .noInterface, .noCleanup, .accept, .verbose]
  | .command .clean => globalSwitches ++ [.noCleanup, .accept]
  | .command .interface => globalSwitches ++ [.accept]

/-- The arguments with values of a level. -/
def Level.valued : Level → List Valued
  | .program | .command .init | .command .completion => [.config]
  | .command _ => [.config, .files]

/-- Why the reading of a command line stops early. -/
inductive Stop where
  | help
  | version
  | invalid
deriving DecidableEq, Repr

/-- Values that wait to be checked. -/
inductive Pending where
  | nothing
  | values (option : Valued) (given : List Text)
  | shell (name : Text)
deriving DecidableEq, Repr

/-- What was read on one level. -/
structure Matches where
  switches : List Switch := []
  config? : Option Text := none
  files : List Text := []
  shell? : Option Shell := none
  pending : Pending := .nothing
deriving DecidableEq, Repr

/-- Take the values of an option. The configuration file is given once, and it has a
name. -/
def Matches.take (found : Matches) : Valued → List Text → Except Stop Matches
  | .config, [path] =>
    if path = [] ∨ found.config?.isSome then .error .invalid
    else .ok { found with config? := some path }
  | .config, _ => .error .invalid
  | .files, names =>
    if names = [] then .error .invalid else .ok { found with files := found.files ++ names }

/-- Check the values that wait. -/
def Matches.settle (found : Matches) : Except Stop Matches :=
  let settled := { found with pending := .nothing }
  match found.pending with
  | .nothing => .ok settled
  | .values option given => settled.take option given
  | .shell name =>
    match Shell.ofText? name with
    | some shell => .ok { settled with shell? := some shell }
    | none => .error .invalid

/-- Note a switch, which may be given once. -/
def Matches.switch (found : Matches) (switch : Switch) : Except Stop Matches := do
  let found ← found.settle
  if found.switches.contains switch then throw .invalid
  return { found with switches := found.switches ++ [switch] }

/-- Stop after what waits has been checked. -/
def Matches.stop (found : Matches) (stop : Stop) : Except Stop Matches := do
  let _ ← found.settle
  throw stop

/-- Read the letters of a short argument. -/
def readShort (level : Level) (found : Matches) : Text → Except Stop Matches
  | [] => .ok found
  | letter :: rest => do
    let found ←
      if letter = 'h' then found.stop .help
      else if letter = 'V' ∧ level = .program then found.stop .version
      else match level.switches.find? fun switch => switch.short? == some letter with
        | some switch => found.switch switch
        | none => throw .invalid
    readShort level found rest

/-- What a long argument is followed by. -/
inductive Following where
  | arguments
  | values (option : Valued)
deriving DecidableEq, Repr

/-- Read a long argument, given its name and the value after its equals sign. -/
def readLong (level : Level) (found : Matches) (name : Text) (attached? : Option Text) :
    Except Stop (Matches × Following) := do
  match level.valued.find? fun option => option.long == name, attached? with
  | some option, some value => do
    let found ← found.settle
    return (← found.take option [value], .arguments)
  | some option, none =>
    let found ← found.settle
    return ({ found with pending := .values option [] }, .values option)
  | none, some _ => throw .invalid
  | none, none =>
    if name = "help" then return (← found.stop .help, .arguments)
    else if name = "version" ∧ level = .program then return (← found.stop .version, .arguments)
    else match level.switches.find? fun switch => switch.long == name with
      | some switch => return (← found.switch switch, .arguments)
      | none => throw .invalid

/-- Add a value to the option that waits for it. -/
def Matches.addValue (found : Matches) (value : Text) : Matches :=
  match found.pending with
  | .values option given => { found with pending := .values option (given ++ [value]) }
  | _ => found

/-- Whether an option takes more values after one. -/
def Valued.followingValue : Valued → Following
  | .config => .arguments
  | .files => .values .files

/-- Read an argument that stands on its own. Only the command for completions has a
use for one. -/
def readPositional (level : Level) (found : Matches) (argument : Text) : Except Stop Matches := do
  if level = .command .completion ∧ found.shell?.isNone then
    let found ← found.settle
    if found.shell?.isSome then throw .invalid
    return { found with pending := .shell argument }
  else throw .invalid

/-- Where reading a level ends: with the arguments, or at the name of a command. -/
structure Reached where
  found : Matches
  command? : Option (Name × List Text)

/-- Read the names after the command `help`. -/
def readHelp : List Text → Stop
  | [] => .help
  | [name] =>
    if name = "help" ∨ Name.all.any fun command => command.text == name then .help else .invalid
  | _ => .invalid

/-- Read the arguments of a level. After `--`, every argument stands on its own. -/
def readLevel (level : Level) (found : Matches) (following : Following) (escaped : Bool) :
    List Text → Except Stop Reached
  | [] => .ok ⟨found, none⟩
  | argument :: rest => do
    if escaped then
      readLevel level (← readPositional level found argument) .arguments true rest
    else
      let command? :=
        if level = .program ∧ following = .arguments then
          Name.all.find? fun command => command.text == argument
        else none
      match command? with
      | some command => return ⟨found, some (command, rest)⟩
      | none =>
        if level = .program ∧ following = .arguments ∧ argument = "help" then
          throw (readHelp rest)
        else if argument = "--" then readLevel level found .arguments true rest
        else match argument with
          | '-' :: '-' :: long =>
            let name := long.takeWhile (· != '=')
            let attached? := match long.drop name.length with
              | [] => none
              | _ :: value => some value
            let (found, following) ← readLong level found name attached?
            readLevel level found following false rest
          | '-' :: letter :: letters =>
            let found ← readShort level found (letter :: letters)
            readLevel level found .arguments false rest
          | _ =>
            match following with
            | .values option =>
              readLevel level (found.addValue argument) option.followingValue false rest
            | .arguments =>
              readLevel level (← readPositional level found argument) .arguments false rest

/-- Check a level as a whole: a configuration file cannot be named and passed over. -/
def Matches.finish (found : Matches) : Except Stop Matches := do
  let found ← found.settle
  if found.config?.isSome ∧ found.switches.contains .norc then throw .invalid
  return found

/-- The global arguments. -/
structure Globals where
  debug : Bool
  backtrace : Bool
  norc : Bool
  config? : Option Text
deriving DecidableEq, Repr

/-- The arguments of a build. -/
structure BuildArguments where
  includeNumpy : Bool := false
  noReports : Bool := false
  noInterface : Bool := false
  noCleanup : Bool := false
  accept : Bool := false
  verbose : Bool := false
deriving DecidableEq, Repr

/-- A command with its arguments. -/
inductive Task where
  | init
  | list (files : List Text) (json : Bool)
  | build (files : List Text) (arguments : BuildArguments)
  | clean (files : List Text) (keepCFiles accept : Bool)
  | interface (files : List Text) (accept : Bool)
  | completion (shell : Shell)
deriving DecidableEq, Repr

/-- The task that the arguments of a command give. -/
def taskOf (name : Name) (found : Matches) : Except Stop Task :=
  let has (switch : Switch) : Bool := found.switches.contains switch
  match name with
  | .init => .ok .init
  | .list => .ok (.list found.files (has .json))
  | .build => .ok (.build found.files
      { includeNumpy := has .includeNumpy
        noReports := has .noReports
        noInterface := has .noInterface
        noCleanup := has .noCleanup
        accept := has .accept
        verbose := has .verbose })
  | .clean => .ok (.clean found.files (has .noCleanup) (has .accept))
  | .interface => .ok (.interface found.files (has .accept))
  | .completion =>
    match found.shell? with
    | some shell => .ok (.completion shell)
    | none => .error .invalid

/-- Read a command line. A global argument counts on either level; of two
configuration files the one after the command holds. -/
def readArguments (arguments : List Text) : Except Stop (Globals × Task) := do
  let reached ← readLevel .program {} .arguments false arguments
  match reached.command? with
  | none => throw .invalid
  | some (name, rest) =>
    let inner ← readLevel (.command name) {} .arguments false rest
    let own ← inner.found.finish
    let task ← taskOf name own
    let outer ← reached.found.finish
    let has (switch : Switch) : Bool :=
      own.switches.contains switch || outer.switches.contains switch
    return ({ debug := has .debug
              backtrace := has .backtrace
              norc := has .norc
              config? := own.config?.or outer.config? }, task)

end PyxProject.Command
