import LineTemplate.Program.Basic
import LineTemplate.Settings

/-!
Contract: the file that settings are kept in.

Owns:
- the directories that a user has for files of this kind;
- where the file is unless its path is given, and loading, saving and creating it.

Does not own: the text of settings.
-/

namespace LineTemplate

/-- The directories of a user, as far as they are known. -/
structure UserDirectories where
  /-- Where programs keep their settings. -/
  configuration : Option Text
  home : Option Text
deriving DecidableEq, Repr

namespace UserDirectories

def configurationBelow (home : Text) : Text := Path.join home ".config".toList

/-- The directories of a user of whom only the home directory may be known. -/
def ofHome (home : Option Text) : UserDirectories := ⟨home.map configurationBelow, home⟩

instance : Coe (Option Text) UserDirectories := ⟨ofHome⟩

end UserDirectories

namespace SettingsFile

/-- Where the settings are unless their path is given: in the place that programs
keep their settings in. If that is not known it is looked for below the home
directory, which a tilde stands for if it is not known either. -/
def defaultPath (directories : UserDirectories) : Text :=
  let configuration := directories.configuration.getD
    (UserDirectories.configurationBelow (directories.home.getD ['~']))
  Path.join (Path.join configuration "templateapp".toList) "config.toml".toList

/-- The settings in a file. Without the file nothing is set. -/
def load (path : Text) : Program Settings := do
  match ← Program.find path with
  | none => return .initial
  | some _ =>
      match Settings.read? (← Program.readText path .file) with
      | some settings => return settings
      | none => throw .settings

def save (path : Text) (settings : Settings) : Program Unit :=
  Program.storeText path settings.write .file

/-- Creates the file with nothing set, unless there is something already; answers
whether it did. -/
def create (path : Text) : Program Bool := do
  match ← Program.find path with
  | some _ => return false
  | none =>
      save path .initial
      return true

end SettingsFile

end LineTemplate
