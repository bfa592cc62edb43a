import LineTemplate.Proofs.ProgramRuns
import LineTemplate.Proofs.Sections

/-!
Contract: the settings that are loaded from a file are those that its document holds.

Owns:
- `GivenSettings.IsHeldBy`: which settings the pairs of a document give, in any layout;
- the text of given settings as sections, which hold them;
- `SettingsFile.load_of_saved_and_of_given`: saved settings are loaded again, and settings that
  a file leaves out are loaded as they are at first.

Does not own: how sections are read.
-/

namespace LineTemplate

open Toml (Entries Scalar Section IsBareKey)

/-! ### Documents that hold settings -/

/-- A table gives these settings of the user and leaves out the others. -/
structure GivenUser.IsHeldBy (user : GivenUser) (table : Entries) : Prop where
  author : table.lookup "author".toList = user.author.map Toml.Value.string
  email : table.lookup "email".toList = user.email.map Toml.Value.string
  company : table.lookup "company".toList = user.company.map Toml.Value.string

/-- A table gives these settings of templates and leaves out the others. -/
structure GivenTemplate.IsHeldBy (template : GivenTemplate) (table : Entries) : Prop where
  header : table.lookup "header".toList = template.header.map Toml.Value.boolean
  defaultState : table.lookup "default_state".toList = template.defaultState.map Toml.Value.string

/-- What is found is a table with such entries if something is given, and else nothing. -/
def HoldsTable {α : Type} (holds : α → Entries → Prop) (given : Option α) :
    Option Toml.Value → Prop
  | none => given = none
  | some (.table _ entries) => ∃ part, given = some part ∧ holds part entries
  | some _ => False

/-- The pairs of a document give these settings and leave out the others. In what order they
stand, what else is there and how its tables are written does not matter. -/
structure GivenSettings.IsHeldBy (given : GivenSettings) (document : Entries) : Prop where
  user : HoldsTable GivenUser.IsHeldBy given.user (document.lookup "user".toList)
  template : HoldsTable GivenTemplate.IsHeldBy given.template (document.lookup "template".toList)

namespace Settings

theorem textOf_map (initial : Text) (given : Option Text) :
    textOf initial (given.map Toml.Value.string) = some (given.getD initial) := by
  cases given <;> rfl

theorem boolOf_map (initial : Bool) (given : Option Bool) :
    boolOf initial (given.map Toml.Value.boolean) = some (given.getD initial) := by
  cases given <;> rfl

theorem userOf_table {user : GivenUser} {table : Entries} (held : user.IsHeldBy table)
    (origin : Toml.TableOrigin) :
    userOf (.table origin table) =
      some ⟨user.author.getD UserSettings.initial.author,
        user.email.getD UserSettings.initial.email,
        user.company.getD UserSettings.initial.company⟩ := by
  simp only [userOf, valuesOf, List.map_cons, List.map_nil, held.author, held.email,
    held.company, Option.bind_eq_bind, Option.bind_some, textOf_map]

theorem templateOf_table {template : GivenTemplate} {table : Entries}
    (held : template.IsHeldBy table) (origin : Toml.TableOrigin) :
    templateOf (.table origin table) =
      some ⟨template.header.getD TemplateSettings.initial.header,
        template.defaultState.getD TemplateSettings.initial.defaultState⟩ := by
  simp only [templateOf, valuesOf, List.map_cons, List.map_nil, held.header,
    held.defaultState, Option.bind_eq_bind, Option.bind_some, textOf_map, boolOf_map]

theorem sectionOf_of_holdsTable {α β : Type} {holds : α → Entries → Prop} {given : Option α}
    {found : Option Toml.Value} (held : HoldsTable holds given found) (initial : β)
    {read : Toml.Value → Option β} (completed : α → β)
    (reads : ∀ part origin entries, holds part entries →
      read (.table origin entries) = some (completed part)) :
    sectionOf initial read found = some ((given.map completed).getD initial) := by
  match found, held with
  | none, nothing =>
      rw [nothing]
      rfl
  | some (.table origin entries), ⟨part, same, holds⟩ =>
      rw [same]
      exact reads part origin entries holds

/-- What a document leaves out is as it is at first. -/
theorem ofEntries_of_isHeldBy {given : GivenSettings} {document : Entries}
    (held : given.IsHeldBy document) : ofEntries document = some given.complete := by
  have user := sectionOf_of_holdsTable held.user UserSettings.initial _
    fun part origin entries holds => userOf_table holds origin
  have template := sectionOf_of_holdsTable held.template TemplateSettings.initial _
    fun part origin entries holds => templateOf_table holds origin
  rw [ofEntries, user, template]
  obtain ⟨_ | user, _ | template⟩ := given <;> rfl

end Settings

/-! ### Settings as sections -/

/-- The pair of a setting, if it is given. -/
def pairOf (key : String) (given : Option Scalar) : List (String × Scalar) :=
  (given.map (Prod.mk key)).toList

def GivenUser.section (user : GivenUser) : Section :=
  ⟨"user", pairOf "author" (user.author.map .string) ++ pairOf "email" (user.email.map .string) ++
    pairOf "company" (user.company.map .string)⟩

def GivenTemplate.section (template : GivenTemplate) : Section :=
  ⟨"template", pairOf "header" (template.header.map .boolean) ++
    pairOf "default_state" (template.defaultState.map .string)⟩

namespace GivenSettings

def sections (given : GivenSettings) : List Section :=
  (given.user.map GivenUser.section).toList ++ (given.template.map GivenTemplate.section).toList

theorem writeText_eq (key : String) (given : Option Text) :
    writeText key given =
      (pairOf key (given.map .string)).flatMap fun pair => Toml.writePair pair.1 pair.2.write := by
  cases given <;> simp [writeText, pairOf, Scalar.write]

theorem writeTruth_eq (key : String) (given : Option Bool) :
    writeTruth key given =
      (pairOf key (given.map .boolean)).flatMap fun pair => Toml.writePair pair.1 pair.2.write := by
  cases given <;> simp [writeTruth, pairOf, Scalar.write]

theorem writeUser_eq : writeUser = fun user => user.section.write := by
  funext user
  simp [writeUser, Section.write, GivenUser.section, writeText_eq]

theorem writeTemplate_eq : writeTemplate = fun template => template.section.write := by
  funext template
  simp [writeTemplate, Section.write, GivenTemplate.section, writeText_eq, writeTruth_eq]

/-- The text of given settings is that of their sections. -/
theorem write_eq (given : GivenSettings) :
    given.write = ['\n'].intercalate (given.sections.map Section.write) := by
  rw [write, writeUser_eq, writeTemplate_eq, sections]
  obtain ⟨_ | user, _ | template⟩ := given <;> rfl

theorem sublist_pairOf (key : String) (given : Option Scalar) :
    ((pairOf key given).map Prod.fst).Sublist [key] := by
  cases given with
  | none => exact List.nil_sublist _
  | some scalar => exact List.Sublist.refl _

/-- Pairs in the order of some keys, of which any may be missing, make a proper section. -/
theorem isProper_of_sublist {name : String} {pairs : List (String × Scalar)} (keys : List String)
    (named : IsBareKey name.toList) (bare : ∀ key ∈ keys, IsBareKey key.toList)
    (distinct : (keys.map String.toList).Nodup) (ordered : (pairs.map Prod.fst).Sublist keys) :
    (Section.mk name pairs).IsProper where
  named := named
  keyed pair member := bare pair.1 (ordered.subset (List.mem_map_of_mem member))
  distinct := by
    have keysOnly : (pairs.map Section.pairEntry).map Prod.fst =
        (pairs.map Prod.fst).map String.toList := by
      simp [Section.pairEntry]
    rw [keysOnly]
    exact (ordered.map String.toList).nodup distinct

theorem isProper_user (user : GivenUser) : user.section.IsProper := by
  refine isProper_of_sublist ["author", "email", "company"] (by decide) (by decide) (by decide) ?_
  rw [List.map_append, List.map_append]
  exact ((sublist_pairOf _ _).append (sublist_pairOf _ _)).append (sublist_pairOf _ _)

theorem isProper_template (template : GivenTemplate) : template.section.IsProper := by
  refine isProper_of_sublist ["header", "default_state"] (by decide) (by decide) (by decide) ?_
  rw [List.map_append]
  exact (sublist_pairOf _ _).append (sublist_pairOf _ _)

theorem isProper_of_mem_sections {given : GivenSettings} :
    ∀ each ∈ given.sections, each.IsProper := by
  intro each member
  rcases List.mem_append.mp member with member | member
  · obtain ⟨user, -, rfl⟩ := Option.map_eq_some_iff.mp (Option.mem_toList.mp member)
    exact isProper_user user
  · obtain ⟨template, -, rfl⟩ := Option.map_eq_some_iff.mp (Option.mem_toList.mp member)
    exact isProper_template template

theorem distinct_sections (given : GivenSettings) :
    ((given.sections.map Section.entry).map Prod.fst).Nodup := by
  obtain ⟨_ | user, _ | template⟩ := given
  · exact List.nodup_nil
  · exact List.nodup_singleton _
  · exact List.nodup_singleton _
  · simp [sections, Section.entry, GivenUser.section, GivenTemplate.section]

/-- What is given under a key is found under this key alone. -/
theorem lookup_toList (key other : Text) (given : Option Toml.Value) :
    (given.map (Prod.mk key)).toList.lookup other = if other = key then given else none := by
  cases given with
  | none => simp
  | some value =>
      by_cases same : other = key
      · simp [same]
      · have unlike : (other == key) = false := by simpa using same
        simp [same, unlike, List.lookup_cons]

theorem lookup_pairOf (key : String) (other : Text) (given : Option Scalar) :
    ((pairOf key given).map Section.pairEntry).lookup other =
      if other = key.toList then given.map Scalar.value else none := by
  have entries : (pairOf key given).map Section.pairEntry =
      ((given.map Scalar.value).map (Prod.mk key.toList)).toList := by
    cases given <;> rfl
  rw [entries, lookup_toList]

theorem isHeldBy_user (user : GivenUser) :
    user.IsHeldBy (user.section.pairs.map Section.pairEntry) := by
  constructor <;>
    simp [GivenUser.section, List.lookup_append, lookup_pairOf, Function.comp_def, Scalar.value]

theorem isHeldBy_template (template : GivenTemplate) :
    template.IsHeldBy (template.section.pairs.map Section.pairEntry) := by
  constructor <;>
    simp [GivenTemplate.section, List.lookup_append, lookup_pairOf, Function.comp_def, Scalar.value]

theorem holdsTable_map {α : Type} {holds : α → Entries → Prop} {table : α → Entries}
    (held : ∀ part, holds part (table part)) (given : Option α) :
    HoldsTable holds given (given.map fun part => .table .header (table part)) := by
  cases given with
  | none => rfl
  | some part => exact ⟨part, rfl, held part⟩

/-- A section that is given is the table under its name. -/
theorem entry_sections (given : GivenSettings) :
    given.sections.map Section.entry =
      ((given.user.map fun user => Toml.Value.table .header
        (user.section.pairs.map Section.pairEntry)).map (Prod.mk "user".toList)).toList ++
      ((given.template.map fun template => Toml.Value.table .header
        (template.section.pairs.map Section.pairEntry)).map (Prod.mk "template".toList)).toList := by
  obtain ⟨_ | user, _ | template⟩ := given <;> rfl

/-- The sections of given settings hold them. -/
theorem isHeldBy_sections (given : GivenSettings) :
    given.IsHeldBy (given.sections.map Section.entry) := by
  rw [entry_sections]
  constructor
  · rw [List.lookup_append, lookup_toList, lookup_toList, if_pos rfl, if_neg (by decide),
      Option.or_none]
    exact holdsTable_map isHeldBy_user given.user
  · rw [List.lookup_append, lookup_toList, lookup_toList, if_neg (by decide), if_pos rfl,
      Option.none_or]
    exact holdsTable_map isHeldBy_template given.template

end GivenSettings

namespace Settings

theorem read?_of_isHeldBy {text : Text} {document : Entries} {given : GivenSettings}
    (read : Toml.readDocument text = some document) (held : given.IsHeldBy document) :
    read? text = some given.complete := by
  rw [read?, read]
  exact ofEntries_of_isHeldBy held

/-- What is left out of the text of settings is as it is at first. -/
theorem read?_write_given (given : GivenSettings) : read? given.write = some given.complete := by
  have read := Toml.readDocument_sections given.isProper_of_mem_sections given.distinct_sections
  rw [← given.write_eq] at read
  exact read?_of_isHeldBy read given.isHeldBy_sections

/-- The text of settings is read as the settings. -/
theorem read?_write (settings : Settings) : read? settings.write = some settings :=
  read?_write_given settings.given

end Settings

/-! ### Files -/

namespace SettingsFile

/-- There is a file with a text at a path. -/
def Holds (machine : Machine) (path text : Text) : Prop :=
  machine.files.find? machine.here path = some (.file (Contents.ofText text))

/-- Settings that are saved without an error are there as their text. -/
theorem holds_of_save {path : Text} {settings : Settings} {machine after : Machine}
    (saved : (save path settings).runOn machine = (.ok (), after)) :
    Holds after path settings.write := by
  obtain ⟨left, went⟩ := Program.runOn_storeText path settings.write .file machine
  rw [save] at saved
  rw [saved] at left went
  dsimp only at left went
  -- Where storing finds no place, it does not end well.
  cases found : machine.files.storePlace machine.here path with
  | error cause =>
      have failed := FileTree.sameFiles_store_of_error (Contents.ofText settings.write) found
      rw [failed.1] at went
      cases went.1 rfl
  | ok place =>
      have stored := FileTree.stored_of_storePlace (Contents.ofText settings.write) found
      rw [left]
      exact stored.2.find?

/-- Saved settings are loaded again. Settings that a file leaves out, alone or with their
section, are loaded as they are at first, in whatever layout it gives the others. An empty file
and a missing one leave out all of them. -/
theorem load_of_saved_and_of_given (path : Text) :
    (∀ (settings : Settings) (machine after : Machine),
      (save path settings).runOn machine = (.ok (), after) →
        (load path).runOn after = (.ok settings, after)) ∧
    (∀ (given : GivenSettings) (machine : Machine), Holds machine path given.write →
      (load path).runOn machine = (.ok given.complete, machine)) ∧
    (∀ (given : GivenSettings) (text : Text) (document : Entries) (machine : Machine),
      Toml.readDocument text = some document → given.IsHeldBy document →
        Holds machine path text → (load path).runOn machine = (.ok given.complete, machine)) ∧
    ∀ machine : Machine,
      machine.files.find? machine.here path = none ∨ Holds machine path [] →
        (load path).runOn machine = (.ok .initial, machine) := by
  refine ⟨fun settings machine after saved => ?_, fun given machine held => ?_,
    fun given text document machine read held there => ?_, fun machine => ?_⟩
  · exact Program.runOn_load_of_text (holds_of_save saved) (Settings.read?_write settings)
  · exact Program.runOn_load_of_text held (Settings.read?_write_given given)
  · exact Program.runOn_load_of_text there (Settings.read?_of_isHeldBy read held)
  · rintro (missing | empty)
    · have absent : (Program.find path).runOn machine = (.ok none, machine) := by
        rw [Program.runOn_find, missing]
        rfl
      rw [load, Program.runOn_bind_of_ok absent]
      rfl
    · exact Program.runOn_load_of_text empty (Settings.read?_write_given ⟨none, none⟩)

/-- Quotation marks of both kinds, backslashes, newlines and control characters are saved and
loaded; of settings between braces, the one that is given is loaded. -/
theorem load_of_marked_settings :
    let path := "d/f".toList
    let settings : Settings :=
      ⟨⟨"\"\"\"A'''\\\n\x07".toList, "it's \\ or \"".toList, "\n\"\"".toList⟩,
        ⟨false, "'".toList⟩⟩
    let given : GivenSettings := ⟨some ⟨none, some "\t\x7f'".toList, none⟩, none⟩
    let text := "user = \x7b email = '@' \x7d # none\n".toList
    let machine (text : Text) : Machine :=
      ⟨⟨[(["d".toList], .directory),
          (["f".toList, "d".toList], .file (Contents.ofText text))]⟩,
        [], ByteArray.empty, .absent, [], []⟩
    let after := ((save path settings).runOn (machine text)).2
    (load path).runOn after = (.ok settings, after) ∧
      (load path).runOn (machine given.write) = (.ok given.complete, machine given.write) ∧
      (load path).runOn (machine text) =
        (.ok ⟨⟨[], "@".toList, []⟩, .initial⟩, machine text) ∧
      (load path).runOn (machine []) = (.ok .initial, machine []) := by
  intro path settings given text machine after
  obtain ⟨saved, written, laidOut, nothing⟩ := load_of_saved_and_of_given path
  have holds (text : Text) : Holds (machine text) path text := rfl
  have wrote : (save path settings).runOn (machine text) = (.ok (), after) :=
    Prod.ext (by rfl) rfl
  refine ⟨saved settings (machine text) after wrote, written given _ (holds _),
    laidOut ⟨some ⟨none, some "@".toList, none⟩, none⟩ text
      [("user".toList, .table .inline [("email".toList, .string "@".toList)])] _ ?_ ?_ (holds _),
    nothing _ (.inr (holds []))⟩
  · rfl
  · exact ⟨⟨_, rfl, ⟨by rfl, by rfl, by rfl⟩⟩, by rfl⟩

end SettingsFile

end LineTemplate
