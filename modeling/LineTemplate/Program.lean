import LineTemplate.CommandLine
import LineTemplate.Program.Dependencies
import LineTemplate.Program.SettingsFile
import LineTemplate.Template.Builder

/-!
Contract: what the program does for each command.

Owns:
- the commands as programs;
- `Program.session`, with the exit code and the last message.

Does not own: the answers of the surroundings, which a machine gives.
-/

namespace LineTemplate

/-- What the program knows of its surroundings before it begins. -/
structure Surroundings extends UserDirectories where
  today : Text
deriving DecidableEq, Repr

/-- How the program ends. -/
abbrev ExitCode := Nat

namespace Program

def reportSuccess (message : Text) : Program Unit :=
  report ("✓ ".toList ++ message ++ ['\n'])

def reportWarning (message : Text) : Program Unit :=
  report ("⚠ ".toList ++ message ++ ['\n'])

/-! ### Statements -/

/-- Prints the statement of each line. -/
def statements : List Text → Program Unit
  | [] => pure ()
  | line :: more =>
      match Statement.assemble line with
      | .error cause => throw (.statement line cause)
      | .ok statement => do
          print (statement.text ++ ['\n'])
          statements more

/-! ### Building -/

/-- The comment block of a template: the user of the settings, whom the options
override, and the day. -/
def metadataOf (user : UserSettings) (options : BuildOptions) (today : Text) : Metadata where
  author := options.author.getD user.author
  email := options.email.getD user.email
  company := options.company.getD user.company
  description := options.description.getD []
  created := today

/-- The comment block, if the settings and the options want one. -/
def metadata? (settings : Settings) (options : BuildOptions) (today : Text) : Option Metadata :=
  if settings.template.header && !options.noHeader then
    some (metadataOf settings.user options today)
  else none

/-- Whether a file may be written: there is nothing at its path, or options or
the user consent. -/
def mayWrite (path : Text) (yes : Bool) : Program Bool := do
  if (← find path).isNone || yes then return true
  else confirm ("'".toList ++ path ++ "' already exists. Overwrite?".toList)

def deliver (template : Template) (path : Text) (yes : Bool) : Program Unit := do
  if ← mayWrite path yes then
    storeText path template.render (.writing path)
    reportSuccess ("Template with ".toList ++ Text.ofNat template.declared.length ++
      " variable(s) written to ".toList ++ path)
  else reportWarning "Cancelled, nothing written.".toList

def build (settings : Settings) (options : BuildOptions) (today : Text) : Program Unit := do
  let data ← readSource options.file
  match Template.build settings.template.defaultState (metadata? settings options today) data with
  | .error cause => throw (.template cause)
  | .ok template =>
      match options.output with
      | none => print template.render
      | some path => deliver template path options.yes

/-! ### Settings -/

/-- Shows settings, and first creates their file if that is wanted. -/
def showSettings (settings : Settings) (path : Text) (create : Bool) : Program Unit := do
  if create then
    if ← SettingsFile.create path then reportSuccess ("Created: ".toList ++ path)
    else reportWarning ("Already exists: ".toList ++ path)
  print ("Config file: ".toList ++ path ++ ['\n'])
  print settings.write

/-! ### Commands -/

/-- What a command does, with the settings that hold. -/
def perform (settings : Settings) (settingsPath today : Text) : Command → Program Unit
  | .statements lines => statements lines
  | .build options => build settings options today
  | .dependencies => print (Dependencies.drawBox Dependencies.lines)
  | .settings create => showSettings settings settingsPath create

/-- The session of a command line. Settings that cannot be loaded stop it before
the command; an error of either ends it with exit code 1. -/
def session (surroundings : Surroundings) (line : CommandLine) : Session ExitCode := do
  let settingsPath := line.settingsPath.getD (SettingsFile.defaultPath surroundings.toUserDirectories)
  match ← (SettingsFile.load settingsPath).run with
  | .error error => .report ("Error: ".toList ++ error.message ++ ['\n']) (.done 1)
  | .ok settings =>
      match ← (perform settings settingsPath surroundings.today line.command).run with
      | .error error => .report ("✗ ".toList ++ error.message ++ ['\n']) (.done 1)
      | .ok () => return 0

end Program

end LineTemplate
