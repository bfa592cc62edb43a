import LineTemplate.Program
import LineTemplate.Proofs.FileTrees

/-!
Contract: the runs of programs on a machine, put together of the runs of their parts.

Owns:
- `Program.runOn`, and what it is for a sequence and for each request;
- programs that change nothing, and programs that keep the files;
- the run of `Program.storeText` as storing in the tree of the machine.

Does not own: what a whole session does.
-/

namespace LineTemplate

/-- No request moves a session to another directory. -/
theorem Session.here_run {α : Type} (session : Session α) (machine : Machine) :
    (session.run machine).2.here = machine.here := by
  induction session generalizing machine with
  | done result => rfl
  | confirm question next inductionHypothesis =>
      rw [Session.run, inductionHypothesis, Machine.confirm]
      cases machine.keyboard <;> rfl
  | find | read | write | ensureDirectories | readInput | print | report =>
      simp_all [Session.run, Machine.withFiles]

namespace Program

/-- The result of a program on a machine, and the machine after it. -/
def runOn {α : Type} (program : Program α) (machine : Machine) :
    Except ProgramError α × Machine :=
  program.run.run machine

variable {α β : Type} {machine next : Machine}

/-! ### Sequences -/

/-- The second program begins on the machine that the first one left, unless that stopped. -/
theorem runOn_bind (first : Program α) (after : α → Program β) (machine : Machine) :
    (first >>= after).runOn machine =
      match first.runOn machine with
      | (.ok value, next) => (after value).runOn next
      | (.error error, next) => (.error error, next) := by
  have unfolded : (first >>= after).run =
      first.run >>= fun
        | .ok value => (after value).run
        | .error error => pure (.error error) := by
    refine congrArg (first.run >>= ·) (funext fun result => ?_)
    cases result <;> rfl
  rw [runOn, unfolded, Session.run_bind, runOn]
  rcases first.run.run machine with ⟨error | value, next⟩ <;> rfl

theorem runOn_bind_of_ok {first : Program α} {value : α}
    (ran : first.runOn machine = (.ok value, next)) (after : α → Program β) :
    (first >>= after).runOn machine = (after value).runOn next := by
  rw [runOn_bind, ran]

theorem runOn_bind_of_error {first : Program α} {error : ProgramError}
    (ran : first.runOn machine = (.error error, next)) (after : α → Program β) :
    (first >>= after).runOn machine = (.error error, next) := by
  rw [runOn_bind, ran]

/-! ### Requests -/

theorem runOn_find (path : Text) (machine : Machine) :
    (find path).runOn machine =
      (.ok ((machine.files.find? machine.here path).map Entry.kind), machine) := rfl

theorem runOn_demand (session : Session (Except FileError α)) (error : FileError → ProgramError)
    (machine : Machine) :
    (demand session error).runOn machine =
      ((session.run machine).1.mapError error, (session.run machine).2) := by
  show Session.run (session >>= _) machine = _
  rw [Session.run_bind]
  cases (session.run machine).1 <;> rfl

theorem runOn_confirm (question : Text) (machine : Machine) :
    (confirm question).runOn machine =
      (match machine.confirm.1 with
        | some answer => .ok answer
        | none => .error .nobodyToAsk, machine.confirm.2) := by
  have asked : (ask (.confirm question .done)).runOn machine =
      (.ok machine.confirm.1, machine.confirm.2) := rfl
  rw [confirm, runOn_bind_of_ok asked]
  cases machine.confirm.1 <;> rfl

/-- Only the keys that are left may change while a question is answered. -/
theorem files_confirm (machine : Machine) :
    machine.confirm.2.files = machine.files ∧ machine.confirm.2.here = machine.here := by
  unfold Machine.confirm
  cases machine.keyboard <;> exact ⟨rfl, rfl⟩

/-! ### Programs that keep what they find -/

/-- A program that leaves everything as it is. -/
def Peeks (program : Program α) : Prop := ∀ machine, (program.runOn machine).2 = machine

/-- A program that leaves all files and directories as they are. -/
def KeepsFiles (program : Program α) : Prop :=
  ∀ machine, (program.runOn machine).2.files = machine.files

/-- What both parts of a sequence keep of a machine, the sequence keeps. -/
theorem kept_runOn_bind {γ : Type} (view : Machine → γ) {first : Program α}
    {after : α → Program β} (keeps : ∀ machine, view (first.runOn machine).2 = view machine)
    (more : ∀ value machine, view ((after value).runOn machine).2 = view machine)
    (machine : Machine) : view ((first >>= after).runOn machine).2 = view machine := by
  have same := keeps machine
  rw [runOn_bind]
  rcases ran : first.runOn machine with ⟨error | value, next⟩ <;> rw [ran] at same
  · exact same
  · exact (more value next).trans same

theorem Peeks.bind {first : Program α} {after : α → Program β} (peeks : Peeks first)
    (more : ∀ value, Peeks (after value)) : Peeks (first >>= after) :=
  kept_runOn_bind id peeks more

theorem KeepsFiles.bind {first : Program α} {after : α → Program β} (keeps : KeepsFiles first)
    (more : ∀ value, KeepsFiles (after value)) : KeepsFiles (first >>= after) :=
  kept_runOn_bind Machine.files keeps more

/-- A program that always ends well and only tells something. -/
def OnlyTells (program : Program Unit) : Prop :=
  ∀ machine, (program.runOn machine).1 = .ok () ∧
    (program.runOn machine).2.files = machine.files

theorem onlyTells_report (text : Text) : OnlyTells (report text) := fun _ => ⟨rfl, rfl⟩

theorem onlyTells_reportSuccess (message : Text) : OnlyTells (reportSuccess message) :=
  onlyTells_report _

theorem onlyTells_reportWarning (message : Text) : OnlyTells (reportWarning message) :=
  onlyTells_report _

theorem onlyTells_print (text : Text) : OnlyTells (print text) := fun _ => ⟨rfl, rfl⟩

theorem OnlyTells.bind {first after : Program Unit} (tells : OnlyTells first)
    (more : OnlyTells after) : OnlyTells (first >>= fun _ => after) := by
  intro machine
  have ended := tells machine
  rw [runOn_bind]
  rcases ran : first.runOn machine with ⟨error | value, next⟩ <;> rw [ran] at ended
  · cases ended.1
  · exact ⟨(more next).1, (more next).2.trans ended.2⟩

/-- What is told after a program changes neither its end nor its files. -/
theorem runOn_bind_of_onlyTells (first : Program Unit) {after : Program Unit}
    (tells : OnlyTells after) (machine : Machine) :
    ((first >>= fun _ => after).runOn machine).2.files = (first.runOn machine).2.files ∧
      (((first >>= fun _ => after).runOn machine).1 = .ok () ↔
        (first.runOn machine).1 = .ok ()) := by
  rw [runOn_bind]
  rcases first.runOn machine with ⟨error | value, next⟩
  · exact ⟨rfl, Iff.rfl⟩
  · exact ⟨(tells next).2, iff_of_true (tells next).1 rfl⟩

theorem peeks_textOf (contents : Contents) (error : FileError → ProgramError) :
    Peeks (textOf contents error) := by
  unfold textOf
  cases contents.text <;> exact fun _ => rfl

theorem peeks_readText (path : Text) (error : FileError → ProgramError) :
    Peeks (readText path error) := by
  refine Peeks.bind (fun machine => ?_) fun contents => peeks_textOf contents error
  rw [runOn_demand]
  rfl

theorem peeks_checkFile (path : Text) : Peeks (checkFile path) := by
  refine Peeks.bind (fun _ => rfl) fun kind => ?_
  rcases kind with _ | _ | _ <;> exact fun _ => rfl

theorem peeks_loadText (path : Text) : Peeks (loadText path) :=
  (peeks_checkFile path).bind fun _ => peeks_readText path (.reading path)

/-- The input is read as a whole or not at all; nothing else changes. -/
theorem exists_runOn_readSource (file : Option Text) (machine : Machine) :
    ∃ left, ((readSource file).runOn machine).2 = { machine with input := left } := by
  have byInput : ∃ left, (readInput.runOn machine).2 = { machine with input := left } := by
    have asked : (ask (.readInput .done)).runOn machine =
        (.ok machine.input, { machine with input := ByteArray.empty }) := rfl
    rw [readInput, runOn_bind_of_ok asked]
    exact ⟨ByteArray.empty, peeks_textOf _ _ _⟩
  cases file with
  | none => exact byInput
  | some path =>
      by_cases dash : Path.isName ['-'] path = true
      · rw [readSource, if_pos dash]
        exact byInput
      · rw [readSource, if_neg dash]
        exact ⟨machine.input, peeks_loadText path machine⟩

theorem peeks_load (path : Text) : Peeks (SettingsFile.load path) := by
  refine Peeks.bind (fun _ => rfl) fun kind => ?_
  cases kind with
  | none => exact fun _ => rfl
  | some kind =>
      refine (peeks_readText path .file).bind fun text => ?_
      cases Settings.read? text <;> exact fun _ => rfl

/-- The settings in the text of a file are loaded from it. -/
theorem runOn_load_of_text {path text : Text} {settings : Settings}
    (found : machine.files.find? machine.here path = some (.file (Contents.ofText text)))
    (read : Settings.read? text = some settings) :
    (SettingsFile.load path).runOn machine = (.ok settings, machine) := by
  have there : (find path).runOn machine = (.ok (some .file), machine) := by
    rw [runOn_find, found]
    rfl
  have reached : (readText path .file).runOn machine = (.ok text, machine) := by
    rw [readText, runOn_bind, runOn_demand]
    simp only [Session.run, FileTree.read_of_find? found, Except.mapError, textOf,
      Contents.text_ofText]
    rfl
  rw [SettingsFile.load, runOn_bind_of_ok there]
  dsimp only
  rw [runOn_bind_of_ok reached, read]
  rfl

theorem keepsFiles_statements (lines : List Text) : KeepsFiles (statements lines) := by
  induction lines with
  | nil => exact fun _ => rfl
  | cons line lines inductionHypothesis =>
      unfold statements
      cases Statement.assemble line with
      | error cause => exact fun _ => rfl
      | ok statement =>
          exact KeepsFiles.bind (fun _ => rfl) fun _ => inductionHypothesis

/-! ### Storing -/

/-- Storing a text leaves the tree that storing its contents makes, and stops if that fails. -/
theorem runOn_storeText (path text : Text) (error : FileError → ProgramError)
    (machine : Machine) :
    ((storeText path text error).runOn machine).2 =
        machine.withFiles (machine.files.store machine.here path (Contents.ofText text)).1 ∧
      (((storeText path text error).runOn machine).1 = .ok () ↔
        (machine.files.store machine.here path (Contents.ofText text)).2 = .ok ()) := by
  let make : Program Unit := (Path.parent? path).elim (pure ()) fun parent =>
    demand (.ensureDirectories parent .done) .file
  have parts : storeText path text error =
      make >>= fun _ => demand (.write path (Contents.ofText text) .done) error := by
    unfold storeText
    simp only [make]
    cases Path.parent? path <;> rfl
  have made : make.runOn machine =
      ((machine.files.withParent machine.here path).2.mapError .file,
        machine.withFiles (machine.files.withParent machine.here path).1) := by
    unfold FileTree.withParent
    simp only [make]
    cases Path.parent? path with
    | none => rfl
    | some parent => exact runOn_demand _ _ _
  rw [parts, runOn_bind, made, FileTree.store]
  rcases machine.files.withParent machine.here path with ⟨tree, cause | _⟩
  · simp [Except.mapError]
  · simp only [Except.mapError, runOn_demand, Session.run, Machine.withFiles, true_and]
    cases (tree.write machine.here path (Contents.ofText text)).2 <;> simp

end Program

end LineTemplate
