import LineTemplate.CommandLine.Level

/-!
Contract: what a command line asks for.

Owns:
- the commands and their options;
- the levels that they are written with, and `CommandLine.read`.

Does not own: what a command does.
-/

namespace LineTemplate

/-- How a template is to be built, where the settings do not say so. -/
structure BuildOptions where
  /-- The file that the annotated text is in, instead of the input. -/
  file : Option Text
  /-- The file that the template goes to, instead of the output. -/
  output : Option Text
  author : Option Text
  email : Option Text
  company : Option Text
  description : Option Text
  noHeader : Bool
  /-- Whether a file that is there may be overwritten unasked. -/
  yes : Bool
deriving DecidableEq, Repr

/-- Something to do. -/
inductive Command where
  | statements (lines : List Text)
  | build (options : BuildOptions)
  | dependencies
  /-- Show the settings, and first create their file if that is wanted. -/
  | settings (create : Bool)
deriving DecidableEq, Repr

/-- A command, with the path of the settings if it is given. -/
structure CommandLine where
  settingsPath : Option Text
  command : Command
deriving DecidableEq, Repr

/-- The commands as they are named. -/
inductive CommandName where
  | statements
  | build
  | dependencies
  | settings
  | help
deriving DecidableEq, Repr

namespace CommandName

def words : List (Text × CommandName) := [
  ("statement".toList, .statements),
  ("s".toList, .statements),
  ("build".toList, .build),
  ("b".toList, .build),
  ("dependency".toList, .dependencies),
  ("dep".toList, .dependencies),
  ("config".toList, .settings),
  ("help".toList, .help)]

def ofWord? (word : Text) : Option CommandName := words.lookup word

end CommandName

namespace Level

/-- The options of every level. -/
def commonOptions : List OptionRule := [
  ⟨"config".toList, some 'c', .path⟩,
  ⟨"help".toList, some 'h', .help⟩]

/-- What stands before the command. -/
def outer : Level where
  options := commonOptions ++ [⟨"version".toList, some 'V', .version⟩]
  operands := .none
  commands := CommandName.words.map Prod.fst

def ofCommand : CommandName → Level
  | .statements => ⟨commonOptions, .texts, []⟩
  | .build => ⟨commonOptions ++ [
      ⟨"output".toList, some 'o', .path⟩,
      ⟨"author".toList, none, .text⟩,
      ⟨"email".toList, none, .text⟩,
      ⟨"company".toList, none, .text⟩,
      ⟨"description".toList, some 'd', .text⟩,
      ⟨"no-header".toList, none, .flag⟩,
      ⟨"yes".toList, some 'y', .flag⟩], .path, []⟩
  | .settings => ⟨commonOptions ++ [⟨"init".toList, none, .flag⟩], .none, []⟩
  | .dependencies | .help => ⟨commonOptions, .none, []⟩

end Level

namespace CommandLine

def buildOptions (arguments : Arguments) : BuildOptions where
  file := arguments.operands.head?
  output := arguments.value? "output"
  author := arguments.value? "author"
  email := arguments.value? "email"
  company := arguments.value? "company"
  description := arguments.value? "description"
  noHeader := arguments.hasFlag "no-header"
  yes := arguments.hasFlag "yes"

def commandOf (name : CommandName) (arguments : Arguments) : Except UsageError Command :=
  match name with
  | .statements =>
      if arguments.operands.isEmpty then .error .missingOperand
      else .ok (.statements arguments.operands)
  | .build =>
      .ok (.build (buildOptions arguments))
  | .dependencies => .ok .dependencies
  | .settings => .ok (.settings (arguments.hasFlag "init"))
  | .help => .error .helpAsked

/-- Help on commands: every word names a command of the level before it, and
only the outermost level has commands. -/
def helpOn : List Text → UsageError
  | [] => .helpAsked
  | [word] => if (CommandName.ofWord? word).isSome then .helpAsked else .unknownCommand
  | _ => .unknownCommand

def readCommand (name : CommandName) (words : List Text) :
    Except UsageError (Option Text × Command) := do
  let level := Level.ofCommand name
  let (arguments, _) ← level.read words .none
  let settled ← arguments.settle level
  .ok (settled.value? "config", ← commandOf name settled)

/-- The cause for which arguments without a command are refused. -/
def withoutCommand (arguments : Arguments) : UsageError :=
  if arguments.options.isEmpty then .nothingAsked else .missingCommand

/-- Reads a command line. A path of the settings that follows the command counts
more than one before it, and a cause behind the command more than a cause
in the last option before it. -/
def read (words : List Text) : Except UsageError CommandLine := do
  let (arguments, continuation) ← Level.outer.read words .none
  match continuation with
  | none => .error (withoutCommand (← arguments.settle Level.outer))
  | some (word, more) =>
      match CommandName.ofWord? word with
      | none => .error .unknownCommand
      | some .help => .error (helpOn more)
      | some name =>
          let (inner, command) ← readCommand name more
          let settled ← arguments.settle Level.outer
          .ok ⟨inner.or (settled.value? "config"), command⟩

end CommandLine

end LineTemplate
