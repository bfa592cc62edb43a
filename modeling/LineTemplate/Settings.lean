import LineTemplate.Template.Builder
import LineTemplate.Toml.Reader
import LineTemplate.Toml.Writer

/-!
Contract: the settings of a user, and the text that they are kept in.

Owns:
- the settings and what they are unless they are given;
- settings of which only some are given, and their completion;
- `GivenSettings.write`, `Settings.write` and `Settings.read?`.

Does not own: the files that settings are kept in.
-/

namespace LineTemplate

/-- Who makes templates. -/
structure UserSettings where
  author : Text
  email : Text
  company : Text
deriving DecidableEq, Repr

/-- How templates are made. -/
structure TemplateSettings where
  header : Bool
  /-- The state that rules go to before any state is named. -/
  defaultState : Text
deriving DecidableEq, Repr

/-- The settings of a user. -/
structure Settings where
  user : UserSettings
  template : TemplateSettings
deriving DecidableEq, Repr

namespace UserSettings

def initial : UserSettings := ⟨[], [], []⟩

end UserSettings

namespace TemplateSettings

def initial : TemplateSettings := ⟨true, Template.startState⟩

end TemplateSettings

namespace Settings

/-- The settings of a user who has given none. -/
def initial : Settings := ⟨.initial, .initial⟩

end Settings

/-! ### Writing -/

/-- The settings of a user as far as they are given. -/
structure GivenUser where
  author : Option Text
  email : Option Text
  company : Option Text
deriving DecidableEq, Repr

/-- The settings of templates as far as they are given. -/
structure GivenTemplate where
  header : Option Bool
  defaultState : Option Text
deriving DecidableEq, Repr

/-- Settings as far as they are given; a section may be left out as a whole. -/
structure GivenSettings where
  user : Option GivenUser
  template : Option GivenTemplate
deriving DecidableEq, Repr

namespace GivenSettings

/-- The line of a text, if it is given. -/
def writeText (key : String) : Option Text → Text
  | none => []
  | some text => Toml.writePair key (Toml.writeString text)

/-- The line of a truth value, if it is given. -/
def writeTruth (key : String) : Option Bool → Text
  | none => []
  | some value => Toml.writePair key (Toml.writeBool value)

def writeUser (user : GivenUser) : Text :=
  Toml.writeHeader "user" ++ writeText "author" user.author ++ writeText "email" user.email ++
    writeText "company" user.company

def writeTemplate (template : GivenTemplate) : Text :=
  Toml.writeHeader "template" ++ writeTruth "header" template.header ++
    writeText "default_state" template.defaultState

/-- The text of settings: a table for the user and one for templates, with an
empty line between them. -/
def write (given : GivenSettings) : Text :=
  ['\n'].intercalate
    ((given.user.map writeUser).toList ++ (given.template.map writeTemplate).toList)

/-- The settings with what is not given as it is at first. -/
def complete (given : GivenSettings) : Settings where
  user := {
    author := (given.user.bind GivenUser.author).getD UserSettings.initial.author
    email := (given.user.bind GivenUser.email).getD UserSettings.initial.email
    company := (given.user.bind GivenUser.company).getD UserSettings.initial.company }
  template := {
    header := (given.template.bind GivenTemplate.header).getD TemplateSettings.initial.header
    defaultState :=
      (given.template.bind GivenTemplate.defaultState).getD
        TemplateSettings.initial.defaultState }

end GivenSettings

namespace Settings

/-- All settings, as given. -/
def given (settings : Settings) : GivenSettings where
  user := some ⟨some settings.user.author, some settings.user.email, some settings.user.company⟩
  template := some ⟨some settings.template.header, some settings.template.defaultState⟩

def write (settings : Settings) : Text := settings.given.write

/-! ### Reading -/

/-- The values of named settings. They may be given by name in a table or in
their order in an array; a time counts as a table without any of them. -/
def valuesOf (names : List Text) : Toml.Value → Option (List (Option Toml.Value))
  | .table _ entries => some (names.map fun name => entries.lookup name)
  | .array items => some ((List.range names.length).map fun index => items[index]?)
  | .tables items =>
      some ((List.range names.length).map fun index =>
        items[index]?.map (Toml.Value.table .header))
  | .dateTime => some (names.map fun _ => none)
  | _ => none

/-- A setting that is a text; `initial` is what it is unless it is given. -/
def textOf (initial : Text) : Option Toml.Value → Option Text
  | none => some initial
  | some (.string text) => some text
  | some _ => none

def boolOf (initial : Bool) : Option Toml.Value → Option Bool
  | none => some initial
  | some (.boolean value) => some value
  | some _ => none

def userOf (value : Toml.Value) : Option UserSettings := do
  let values ← valuesOf ["author".toList, "email".toList, "company".toList] value
  match values with
  | [author, email, company] =>
      some ⟨← textOf UserSettings.initial.author author,
        ← textOf UserSettings.initial.email email,
        ← textOf UserSettings.initial.company company⟩
  | _ => none

def templateOf (value : Toml.Value) : Option TemplateSettings := do
  let values ← valuesOf ["header".toList, "default_state".toList] value
  match values with
  | [header, defaultState] =>
      some ⟨← boolOf TemplateSettings.initial.header header,
        ← textOf TemplateSettings.initial.defaultState defaultState⟩
  | _ => none

/-- A section that may be missing. -/
def sectionOf {α : Type} (initial : α) (read : Toml.Value → Option α) :
    Option Toml.Value → Option α
  | none => some initial
  | some value => read value

/-- The settings in the pairs of a document. Keys that name no setting are
passed over. -/
def ofEntries (entries : Toml.Entries) : Option Settings := do
  some ⟨← sectionOf .initial userOf (entries.lookup "user".toList),
    ← sectionOf .initial templateOf (entries.lookup "template".toList)⟩

/-- The settings that a text holds, or none if it holds anything else. -/
def read? (text : Text) : Option Settings := (Toml.readDocument text).bind ofEntries

end Settings

end LineTemplate
