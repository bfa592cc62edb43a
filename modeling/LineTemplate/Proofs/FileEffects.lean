import LineTemplate.Proofs.SettingsFiles

/-!
Contract: what a session does to the files of a machine.

Owns:
- `Program.Stores`, the one text that a session may store, and the session as that
  storing or as none;
- which runs leave the tree as it is, what a template and settings leave in it, and
  `Program.confined_and_overwritesUntold_iff`: a file is replaced unasked exactly through a
  path that leads to it only once its directories are made.

Does not own: how a text is stored in a tree.

A session looks at a path before it makes the directories above it, and only what it sees
then decides whether anyone is asked. The place that is looked at and the place that is
written are therefore told apart throughout; they differ where a path leads up out of a
directory that is still to be made.
-/

namespace LineTemplate

namespace Program

variable {surroundings : Surroundings} {line : CommandLine} {machine : Machine}
  {path text : Text}

/-! ### What a session goes by -/

/-- The path of the settings that hold for a command line. -/
def settingsPath (surroundings : Surroundings) (line : CommandLine) : Text :=
  line.settingsPath.getD (SettingsFile.defaultPath surroundings.toUserDirectories)

/-- The settings that hold, if they can be loaded. -/
def loaded (surroundings : Surroundings) (line : CommandLine) (machine : Machine) :
    Except ProgramError Settings :=
  ((SettingsFile.load (settingsPath surroundings line)).runOn machine).1

/-- The text that a template is built of, if it can be read. -/
def source (options : BuildOptions) (machine : Machine) : Except ProgramError Text :=
  ((readSource options.file).runOn machine).1

/-- The machine that a session leaves. -/
def machineAfter (surroundings : Surroundings) (line : CommandLine) (machine : Machine) :
    Machine :=
  ((session surroundings line).run machine).2

/-- The exit code of a session. -/
def exitCode (surroundings : Surroundings) (line : CommandLine) (machine : Machine) : ExitCode :=
  ((session surroundings line).run machine).1

/-- A path may be written: nothing is found at it, an option says so, or the user does. -/
def Consents (machine : Machine) (path : Text) (yes : Bool) : Prop :=
  machine.files.find? machine.here path = none ∨ yes = true ∨ machine.confirm.1 = some true

/-- The text that a session stores and the path that it stores it at. -/
inductive Stores (surroundings : Surroundings) (line : CommandLine) (machine : Machine) :
    Text → Text → Prop
  | template {settings : Settings} {options : BuildOptions} {data : Text}
      {template : Template} {path : Text}
      (settled : loaded surroundings line machine = .ok settings)
      (command : line.command = .build options)
      (output : options.output = some path)
      (readable : source options machine = .ok data)
      (built : Template.build settings.template.defaultState
        (metadata? settings options surroundings.today) data = .ok template)
      (consents : Consents machine path options.yes) :
      Stores surroundings line machine path template.render
  | settings {settings : Settings}
      (settled : loaded surroundings line machine = .ok settings)
      (command : line.command = .settings true)
      (absent : machine.files.find? machine.here (settingsPath surroundings line) = none) :
      Stores surroundings line machine (settingsPath surroundings line) Settings.initial.write

/-! ### The parts of a session -/

theorem runOn_mayWrite_of_consents {yes : Bool} (consents : Consents machine path yes) :
    ∃ next, (mayWrite path yes).runOn machine = (.ok true, next) ∧
      next.files = machine.files ∧ next.here = machine.here := by
  rw [mayWrite, runOn_bind_of_ok (runOn_find path machine)]
  by_cases free : ((machine.files.find? machine.here path).map Entry.kind).isNone || yes
  · rw [if_pos free]
    exact ⟨machine, rfl, rfl, rfl⟩
  · rw [if_neg free, runOn_confirm]
    have agreed : machine.confirm.1 = some true := by
      rcases consents with absent | told | agreed
      · simp [absent] at free
      · simp [told] at free
      · exact agreed
    rw [agreed]
    exact ⟨machine.confirm.2, rfl, files_confirm machine⟩

theorem runOn_mayWrite_of_not_consents {yes : Bool} (refused : ¬Consents machine path yes) :
    ∃ next, ((mayWrite path yes).runOn machine = (.ok false, next) ∨
        (mayWrite path yes).runOn machine = (.error .nobodyToAsk, next)) ∧
      next.files = machine.files := by
  simp only [Consents, not_or] at refused
  obtain ⟨found, untold, unagreed⟩ := refused
  rw [mayWrite, runOn_bind_of_ok (runOn_find path machine)]
  rw [if_neg (by simp [untold, found]), runOn_confirm]
  refine ⟨machine.confirm.2, ?_, (files_confirm machine).1⟩
  rcases asked : machine.confirm.1 with _ | _ | _
  · exact .inr rfl
  · exact .inl rfl
  · exact absurd asked unagreed

/-- A template that may be delivered is stored, and nothing else happens to the files. -/
theorem runOn_deliver_of_consents {template : Template} {yes : Bool}
    (consents : Consents machine path yes) :
    ((deliver template path yes).runOn machine).2.files =
        (machine.files.store machine.here path (Contents.ofText template.render)).1 ∧
      (((deliver template path yes).runOn machine).1 = .ok () ↔
        (machine.files.store machine.here path (Contents.ofText template.render)).2 = .ok ()) := by
  obtain ⟨next, may, files, here⟩ := runOn_mayWrite_of_consents consents
  obtain ⟨left, went⟩ := runOn_storeText path template.render (.writing path) next
  rw [deliver, runOn_bind_of_ok may, if_pos rfl]
  obtain ⟨kept, ended⟩ := runOn_bind_of_onlyTells _ (onlyTells_reportSuccess _) next
  rw [kept, ended, left, went, files, here]
  exact ⟨rfl, Iff.rfl⟩

theorem files_deliver_of_not_consents {template : Template} {yes : Bool}
    (refused : ¬Consents machine path yes) :
    ((deliver template path yes).runOn machine).2.files = machine.files := by
  obtain ⟨next, declined | unanswered, files⟩ := runOn_mayWrite_of_not_consents refused
  · rw [deliver, runOn_bind_of_ok declined]
    exact files
  · rw [deliver, runOn_bind_of_error unanswered]
    exact files

theorem onlyTells_settings (settings : Settings) (path : Text) :
    OnlyTells (do
      print ("Config file: ".toList ++ path ++ ['\n'])
      print settings.write) :=
  (onlyTells_print _).bind (onlyTells_print _)

/-- Settings are created by storing them where nothing is found. -/
theorem runOn_showSettings_of_absent {settings : Settings}
    (absent : machine.files.find? machine.here path = none) :
    ((showSettings settings path true).runOn machine).2.files =
        (machine.files.store machine.here path (Contents.ofText Settings.initial.write)).1 ∧
      (((showSettings settings path true).runOn machine).1 = .ok () ↔
        (machine.files.store machine.here path
          (Contents.ofText Settings.initial.write)).2 = .ok ()) := by
  have parts : (showSettings settings path true).runOn machine =
      (storeText path Settings.initial.write .file >>= fun _ => do
        reportSuccess ("Created: ".toList ++ path)
        print ("Config file: ".toList ++ path ++ ['\n'])
        print settings.write).runOn machine := by
    have made : (SettingsFile.create path).runOn machine =
        (storeText path Settings.initial.write .file >>= fun _ => pure true).runOn machine := by
      rw [SettingsFile.create, runOn_bind_of_ok (runOn_find path machine), absent]
      rfl
    rw [showSettings, if_pos rfl, runOn_bind, made, runOn_bind, runOn_bind]
    rcases (storeText path Settings.initial.write .file).runOn machine with ⟨_ | _, next⟩ <;> rfl
  obtain ⟨left, went⟩ := runOn_storeText path Settings.initial.write .file machine
  obtain ⟨kept, ended⟩ := runOn_bind_of_onlyTells _
    ((onlyTells_reportSuccess _).bind (onlyTells_settings settings path)) machine
  rw [parts, kept, ended, left, went]
  exact ⟨rfl, Iff.rfl⟩

theorem files_showSettings_of_found {settings : Settings} {create : Bool}
    (kept : create = true → machine.files.find? machine.here path ≠ none) :
    ((showSettings settings path create).runOn machine).2.files = machine.files := by
  cases create with
  | false => exact (onlyTells_settings settings path machine).2
  | true =>
      have created : (SettingsFile.create path).runOn machine = (.ok false, machine) := by
        rw [SettingsFile.create, runOn_bind_of_ok (runOn_find path machine)]
        cases found : machine.files.find? machine.here path with
        | none => exact absurd found (kept rfl)
        | some entry => rfl
      have parts : (showSettings settings path true).runOn machine =
          (reportWarning ("Already exists: ".toList ++ path) >>= fun _ => do
            print ("Config file: ".toList ++ path ++ ['\n'])
            print settings.write).runOn machine := by
        rw [showSettings, if_pos rfl, runOn_bind, created]
        rfl
      rw [parts]
      exact ((onlyTells_reportWarning _).bind (onlyTells_settings settings path) machine).2

/-- Only the input is used up before a template is shown or delivered. -/
theorem exists_runOn_build (settings : Settings) (options : BuildOptions) (today : Text)
    (machine : Machine) :
    ∃ left, (build settings options today).runOn machine =
      match source options machine with
      | .error error => (.error error, { machine with input := left })
      | .ok data =>
          match Template.build settings.template.defaultState
            (metadata? settings options today) data with
          | .error cause => (.error (.template cause), { machine with input := left })
          | .ok template =>
              match options.output with
              | none =>
                  (.ok (), { machine with
                    input := left
                    output := machine.output ++ template.render })
              | some path =>
                  (deliver template path options.yes).runOn { machine with input := left } := by
  obtain ⟨left, same⟩ := exists_runOn_readSource options.file machine
  refine ⟨left, ?_⟩
  rw [build, runOn_bind, source]
  rcases ran : (readSource options.file).runOn machine with ⟨error | data, next⟩ <;>
    rw [ran] at same <;> subst same
  · rfl
  dsimp only
  cases Template.build settings.template.defaultState (metadata? settings options today) data with
  | error cause => rfl
  | ok template => cases options.output <;> rfl

theorem consents_withInput {yes : Bool} (left : Contents) :
    Consents { machine with input := left } path yes ↔ Consents machine path yes := by
  have answered : ({ machine with input := left } : Machine).confirm.1 = machine.confirm.1 := by
    unfold Machine.confirm
    cases machine.keyboard <;> rfl
  rw [Consents, Consents, answered]

/-! ### Sessions -/

theorem run_session (surroundings : Surroundings) (line : CommandLine) (machine : Machine) :
    (session surroundings line).run machine =
      match loaded surroundings line machine with
      | .error error =>
          (1, { machine with
            messages := machine.messages ++ ("Error: ".toList ++ error.message ++ ['\n']) })
      | .ok settings =>
          match (perform settings (settingsPath surroundings line) surroundings.today
            line.command).runOn machine with
          | (.error error, next) =>
              (1, { next with
                messages := next.messages ++ ("✗ ".toList ++ error.message ++ ['\n']) })
          | (.ok (), next) => (0, next) := by
  unfold session loaded settingsPath
  dsimp only
  generalize line.settingsPath.getD (SettingsFile.defaultPath surroundings.toUserDirectories) = path
  have peeks : ((SettingsFile.load path).run.run machine).2 = machine := peeks_load path machine
  rw [Session.run_bind, peeks, runOn]
  cases ((SettingsFile.load path).run.run machine).1 with
  | error error => rfl
  | ok settings =>
      dsimp only
      rw [Session.run_bind, runOn]
      rcases (perform settings path surroundings.today line.command).run.run machine with
        ⟨_ | _, next⟩ <;> rfl

/-- Settings that cannot be loaded stop a session before its command. -/
theorem session_of_error {error : ProgramError}
    (failed : loaded surroundings line machine = .error error) :
    exitCode surroundings line machine = 1 ∧
      (machineAfter surroundings line machine).files = machine.files := by
  rw [exitCode, machineAfter, run_session, failed]
  exact ⟨rfl, rfl⟩

/-- With its settings, a session leaves what its command leaves, and ends well if that does. -/
theorem session_of_ok {settings : Settings}
    (settled : loaded surroundings line machine = .ok settings) :
    (machineAfter surroundings line machine).files =
        ((perform settings (settingsPath surroundings line) surroundings.today
          line.command).runOn machine).2.files ∧
      (exitCode surroundings line machine = 0 ↔
        ((perform settings (settingsPath surroundings line) surroundings.today
          line.command).runOn machine).1 = .ok ()) := by
  rw [exitCode, machineAfter, run_session, settled]
  dsimp only
  rcases (perform settings (settingsPath surroundings line) surroundings.today
    line.command).runOn machine with ⟨error | _, next⟩
  · exact ⟨rfl, by simp⟩
  · exact ⟨rfl, by simp⟩

/-- A session that stores a text leaves the tree with it, and ends well if storing does. -/
theorem session_of_stores (stores : Stores surroundings line machine path text) :
    (machineAfter surroundings line machine).files =
        (machine.files.store machine.here path (Contents.ofText text)).1 ∧
      (exitCode surroundings line machine = 0 ↔
        (machine.files.store machine.here path (Contents.ofText text)).2 = .ok ()) := by
  cases stores with
  | template settled command output readable built consents =>
      rename_i settings options data template
      obtain ⟨files, ended⟩ := session_of_ok settled
      obtain ⟨left, ran⟩ := exists_runOn_build settings options surroundings.today machine
      simp only [readable, built, output] at ran
      rw [files, ended, command, perform, ran]
      exact runOn_deliver_of_consents ((consents_withInput left).2 consents)
  | settings settled command absent =>
      obtain ⟨files, ended⟩ := session_of_ok settled
      rw [files, ended, command]
      exact runOn_showSettings_of_absent absent

/-- A session that stores nothing leaves the whole tree as it is. -/
theorem files_session_of_not_stores
    (idle : ∀ path text, ¬Stores surroundings line machine path text) :
    (machineAfter surroundings line machine).files = machine.files := by
  cases settled : loaded surroundings line machine with
  | error error => exact (session_of_error settled).2
  | ok settings =>
      rw [(session_of_ok settled).1]
      cases command : line.command with
      | statements lines => exact keepsFiles_statements lines machine
      | dependencies => rfl
      | settings create =>
          refine files_showSettings_of_found fun created absent => ?_
          subst created
          exact idle _ _ (.settings settled command absent)
      | build options =>
          obtain ⟨left, ran⟩ := exists_runOn_build settings options surroundings.today machine
          rw [perform, ran]
          cases readable : source options machine with
          | error error => rfl
          | ok data =>
              dsimp only
              cases built : Template.build settings.template.defaultState
                (metadata? settings options surroundings.today) data with
              | error cause => rfl
              | ok template =>
                  dsimp only
                  cases output : options.output with
                  | none => rfl
                  | some path =>
                      refine files_deliver_of_not_consents fun consents => ?_
                      exact idle _ _ (.template settled command output readable built
                        ((consents_withInput left).1 consents))

/-! ### What may change -/

/-- A session stops before anything could be stored: its settings cannot be loaded, what
it builds of cannot be read, or no template comes of it. -/
inductive StopsEarly (surroundings : Surroundings) (line : CommandLine) (machine : Machine) : Prop
  | settings {error : ProgramError} (failed : loaded surroundings line machine = .error error)
  | source {options : BuildOptions} {error : ProgramError}
      (command : line.command = .build options)
      (unreadable : source options machine = .error error)
  | template {settings : Settings} {options : BuildOptions} {data : Text}
      {cause : TemplateError}
      (settled : loaded surroundings line machine = .ok settings)
      (command : line.command = .build options)
      (readable : source options machine = .ok data)
      (unbuilt : Template.build settings.template.defaultState
        (metadata? settings options surroundings.today) data = .error cause)

/-- A session leaves a template at its path: it was to, it might, and it ended well. -/
def Delivers (surroundings : Surroundings) (line : CommandLine) (machine : Machine)
    (options : BuildOptions) (path : Text) : Prop :=
  line.command = .build options ∧ options.output = some path ∧
    Consents machine path options.yes ∧ exitCode surroundings line machine = 0

/-- A session leaves settings at their path, where nothing was found, and ended well. -/
def Creates (surroundings : Surroundings) (line : CommandLine) (machine : Machine) : Prop :=
  line.command = .settings true ∧
    machine.files.find? machine.here (settingsPath surroundings line) = none ∧
    exitCode surroundings line machine = 0

/-- The same command line, for a template that is shown instead of stored. -/
def shown (line : CommandLine) (options : BuildOptions) : CommandLine :=
  { line with command := .build { options with output := none } }

/-- What a session may do to the files of a machine. -/
structure Confined (surroundings : Surroundings) (line : CommandLine) (machine : Machine) :
    Prop where
  /-- Every file is kept but for a template that is delivered and settings that are created. -/
  kept : (∀ options path, ¬Delivers surroundings line machine options path) →
    ¬Creates surroundings line machine →
    machine.files.SameFiles (machineAfter surroundings line machine).files
  /-- The one file that a delivery changes holds what the same command would show. -/
  delivered : ∀ options path, Delivers surroundings line machine options path →
    ∃ place text left,
      machine.files.Stored (machineAfter surroundings line machine).files machine.here path
        place (Contents.ofText text) ∧
      (session surroundings (shown line options)).run machine =
        (0, { machine with input := left, output := machine.output ++ text })
  /-- The one file that is created holds settings that are loaded as the initial ones. -/
  created : Creates surroundings line machine →
    ∃ place,
      machine.files.Stored (machineAfter surroundings line machine).files machine.here
        (settingsPath surroundings line) place (Contents.ofText Settings.initial.write) ∧
      loaded surroundings line (machineAfter surroundings line machine) = .ok .initial
  /-- Without consent the whole tree is as before. -/
  refused : ∀ options path, line.command = .build options → options.output = some path →
    ¬Consents machine path options.yes →
    (machineAfter surroundings line machine).files = machine.files
  /-- So it is after a stop. -/
  stopped : StopsEarly surroundings line machine →
    (machineAfter surroundings line machine).files = machine.files

theorem StopsEarly.not_stores (stops : StopsEarly surroundings line machine) :
    ¬Stores surroundings line machine path text := by
  intro stores
  cases stores <;> cases stops <;> simp_all

theorem not_stores_of_not_consents {options : BuildOptions} {other : Text}
    (command : line.command = .build options) (output : options.output = some path)
    (refused : ¬Consents machine path options.yes) :
    ¬Stores surroundings line machine other text := by
  intro stores
  cases stores <;> simp_all

theorem Stores.delivers_or_creates (stores : Stores surroundings line machine path text)
    (ended : exitCode surroundings line machine = 0) :
    (∃ options, Delivers surroundings line machine options path) ∨
      Creates surroundings line machine := by
  cases stores with
  | template settled command output readable built consents =>
      exact .inl ⟨_, command, output, consents, ended⟩
  | settings settled command absent => exact .inr ⟨command, absent, ended⟩

/-- Storing that is over leaves one file changed, or none. -/
theorem Stores.stored (stores : Stores surroundings line machine path text) :
    (∃ place, exitCode surroundings line machine = 0 ∧
        machine.files.storePlace machine.here path = .ok place ∧
        machine.files.Stored (machineAfter surroundings line machine).files machine.here path
          place (Contents.ofText text)) ∨
      exitCode surroundings line machine ≠ 0 ∧
        machine.files.SameFiles (machineAfter surroundings line machine).files := by
  obtain ⟨files, ended⟩ := session_of_stores stores
  rw [files]
  cases found : machine.files.storePlace machine.here path with
  | error cause =>
      obtain ⟨failed, same⟩ := FileTree.sameFiles_store_of_error (Contents.ofText text) found
      refine .inr ⟨fun well => ?_, same⟩
      rw [ended.1 well] at failed
      cases failed
  | ok place =>
      obtain ⟨went, stored⟩ := FileTree.stored_of_storePlace (Contents.ofText text) found
      exact .inl ⟨place, ended.2 went, rfl, stored⟩

/-- Only a session with its settings ends well. -/
theorem exists_loaded_of_exitCode (ended : exitCode surroundings line machine = 0) :
    ∃ settings, loaded surroundings line machine = .ok settings ∧
      ((perform settings (settingsPath surroundings line) surroundings.today
        line.command).runOn machine).1 = .ok () := by
  cases settled : loaded surroundings line machine with
  | error error => simp [(session_of_error settled).1] at ended
  | ok settings => exact ⟨settings, rfl, (session_of_ok settled).2.1 ended⟩

/-- A delivery stores a template, which the same command shows if it is not to store it. -/
theorem Delivers.exists_stores {options : BuildOptions}
    (delivers : Delivers surroundings line machine options path) :
    ∃ text left, Stores surroundings line machine path text ∧
      (session surroundings (shown line options)).run machine =
        (0, { machine with input := left, output := machine.output ++ text }) := by
  obtain ⟨command, output, consents, ended⟩ := delivers
  obtain ⟨settings, settled, went⟩ := exists_loaded_of_exitCode ended
  obtain ⟨left, ran⟩ := exists_runOn_build settings options surroundings.today machine
  rw [command, perform, ran] at went
  cases readable : source options machine with
  | error error => simp [readable] at went
  | ok data =>
      cases built : Template.build settings.template.defaultState
        (metadata? settings options surroundings.today) data with
      | error cause => simp [readable, built] at went
      | ok template =>
          obtain ⟨left, ran⟩ := exists_runOn_build settings { options with output := none }
            surroundings.today machine
          refine ⟨template.render, left,
            .template settled command output readable built consents, ?_⟩
          have settled' : loaded surroundings (shown line options) machine = .ok settings := settled
          have readable' : source { options with output := none } machine = .ok data := readable
          have built' : Template.build settings.template.defaultState
              (metadata? settings { options with output := none } surroundings.today) data =
                .ok template := built
          rw [readable'] at ran
          dsimp only at ran
          rw [built'] at ran
          rw [run_session, settled']
          dsimp only [shown, perform]
          rw [ran]

theorem Creates.stores (creates : Creates surroundings line machine) :
    Stores surroundings line machine (settingsPath surroundings line) Settings.initial.write := by
  obtain ⟨settings, settled, -⟩ := exists_loaded_of_exitCode creates.2.2
  exact .settings settled creates.1 creates.2.1

/-- Stored initial settings are loaded as such. -/
theorem loaded_of_stored {before : FileTree} {place : Location}
    (stored : before.Stored machine.files machine.here (settingsPath surroundings line) place
      (Contents.ofText Settings.initial.write)) :
    loaded surroundings line machine = .ok .initial :=
  congrArg Prod.fst (runOn_load_of_text stored.find? (Settings.read?_write .initial))

theorem confined (surroundings : Surroundings) (line : CommandLine) (machine : Machine) :
    Confined surroundings line machine where
  kept undelivered uncreated := by
    by_cases idle : ∀ path text, ¬Stores surroundings line machine path text
    · rw [files_session_of_not_stores idle]
      exact FileTree.SameFiles.refl _
    · push Not at idle
      obtain ⟨path, text, stores⟩ := idle
      obtain ⟨-, ended, -⟩ | ⟨-, same⟩ := stores.stored
      · obtain ⟨options, delivers⟩ | creates := stores.delivers_or_creates ended
        · exact absurd delivers (undelivered options path)
        · exact absurd creates uncreated
      · exact same
  delivered options path delivers := by
    obtain ⟨text, left, stores, shows⟩ := delivers.exists_stores
    obtain ⟨place, -, -, stored⟩ | ⟨unended, -⟩ := stores.stored
    · exact ⟨place, text, left, stored, shows⟩
    · exact absurd delivers.2.2.2 unended
  created creates := by
    obtain ⟨place, -, -, stored⟩ | ⟨unended, -⟩ := creates.stores.stored
    · have unmoved : (machineAfter surroundings line machine).here = machine.here :=
        Session.here_run _ machine
      exact ⟨place, stored, loaded_of_stored (unmoved ▸ stored)⟩
    · exact absurd creates.2.2 unended
  refused options path command output refused :=
    files_session_of_not_stores fun _ _ => not_stores_of_not_consents command output refused
  stopped stops := files_session_of_not_stores fun _ _ => stops.not_stores

/-! ### Files that are overwritten -/

/-- An option or the user tells the session to overwrite what is found where its template goes. -/
def IsTold (line : CommandLine) (machine : Machine) : Prop :=
  ∃ options path, line.command = .build options ∧ options.output = some path ∧
    (options.yes = true ∨
      machine.files.find? machine.here path ≠ none ∧ machine.confirm.1 = some true)

/-- Without being told to, a session leaves other contents in a file. -/
def OverwritesUntold (surroundings : Surroundings) (line : CommandLine) (machine : Machine) :
    Prop :=
  ¬IsTold line machine ∧ ∃ place old, machine.files.contents? place = some old ∧
    (machineAfter surroundings line machine).files.contents? place ≠ some old

/-- Without being told to, a session stores a text at a path that hides a file with other
contents. -/
def TakesDetour (surroundings : Surroundings) (line : CommandLine) (machine : Machine) : Prop :=
  ¬IsTold line machine ∧ ∃ path text, Stores surroundings line machine path text ∧
    machine.files.ReplacesUnseen machine.here path (Contents.ofText text)

/-- What an untold session stores goes where nothing was found. -/
theorem Stores.absent (stores : Stores surroundings line machine path text)
    (untold : ¬IsTold line machine) : machine.files.find? machine.here path = none := by
  cases stores with
  | settings settled command absent => exact absent
  | template settled command output readable built consents =>
      rename_i settings options data template
      by_contra found
      refine untold ⟨options, path, command, output, ?_⟩
      rcases consents with absent | yes | agreed
      · exact absurd absent found
      · exact .inl yes
      · exact .inr ⟨found, agreed⟩

theorem overwritesUntold_iff (surroundings : Surroundings) (line : CommandLine)
    (machine : Machine) :
    OverwritesUntold surroundings line machine ↔ TakesDetour surroundings line machine := by
  refine and_congr_right fun untold => ⟨?_, ?_⟩
  · rintro ⟨place, old, before, changed⟩
    have busy : ¬∀ path text, ¬Stores surroundings line machine path text := fun idle =>
      changed (by rwa [files_session_of_not_stores idle])
    push Not at busy
    obtain ⟨path, text, stores⟩ := busy
    obtain ⟨written, -, found, stored⟩ | ⟨-, same⟩ := stores.stored
    · by_cases here : place = written
      · subst here
        rw [stored.changes.holds] at changed
        exact ⟨path, text, stores, stores.absent untold, place, old, found, before,
          fun same => changed (by rw [same])⟩
      · exact absurd ((stored.changes.others place here).trans before) changed
    · exact absurd ((same place).trans before) changed
  · rintro ⟨path, text, stores, absent, place, old, found, before, other⟩
    refine ⟨place, old, before, ?_⟩
    obtain ⟨files, -⟩ := session_of_stores stores
    obtain ⟨-, stored⟩ := FileTree.stored_of_storePlace (Contents.ofText text) found
    rw [files, stored.changes.holds]
    exact fun same => other (Option.some.inj same).symm

/-- A session changes nothing but the file that it is told to write and settings that it
creates; it overwrites a file untold exactly when the path that it stores a text at leads
to the file only through directories that are made for it.

The trees of files that this is about have no links, so that a path says where it leads;
and a file is written as a whole or not at all: a write that has begun does not fail. -/
theorem confined_and_overwritesUntold_iff (surroundings : Surroundings) (line : CommandLine)
    (machine : Machine) :
    Confined surroundings line machine ∧
      (OverwritesUntold surroundings line machine ↔ TakesDetour surroundings line machine) :=
  ⟨confined surroundings line machine, overwritesUntold_iff surroundings line machine⟩

/-- Where everything lies in a directory, only a path that leads up takes a detour. -/
theorem TakesDetour.leads_up (rooted : machine.files.IsRooted)
    (detour : TakesDetour surroundings line machine) :
    ∃ path text, Stores surroundings line machine path text ∧
      ['.', '.'] ∈ Path.segments path := by
  obtain ⟨-, path, text, stores, replaces⟩ := detour
  exact ⟨path, text, stores, replaces.leads_up rooted⟩

/-- The path leads up from a directory that is missing, so that nothing is found at it and
nobody is asked; once the directory is made, it leads to the file. -/
theorem template_replaces_file_behind_missing_directory :
    let line : CommandLine := ⟨none, .build
      ⟨none, some "a/../f".toList, none, none, none, none, true, false⟩⟩
    let machine : Machine :=
      ⟨⟨[(["f".toList], .file (Contents.ofText "old".toList))]⟩, [],
        Contents.ofText "abc digits(var_n)\n".toList, .absent, [], []⟩
    CommandLine.read ["build".toList, "--no-header".toList, "-o".toList, "a/../f".toList] =
        .ok line ∧
      OverwritesUntold ⟨⟨none, none⟩, []⟩ line machine ∧
      exitCode ⟨⟨none, none⟩, []⟩ line machine = 0 ∧
      (machineAfter ⟨⟨none, none⟩, []⟩ line machine).files.contents? ["f".toList] =
        some (Contents.ofText
          "Value n (\\d+)\n\nStart\n  ^abc $\x7bn\x7d\n".toList) := by
  intro line machine
  have untold : ¬IsTold line machine := by
    rintro ⟨options, path, command, -, yes | ⟨-, agreed⟩⟩
    · cases command
      cases yes
    · cases agreed
  have overwrites : OverwritesUntold ⟨⟨none, none⟩, []⟩ line machine :=
    ⟨untold, ["f".toList], Contents.ofText "old".toList, by decide +kernel, by decide +kernel⟩
  exact ⟨by decide +kernel, overwrites, by decide +kernel, by decide +kernel⟩

end Program

end LineTemplate
