import LineTemplate.Proofs.Fragments
import LineTemplate.Proofs.ReaderActions

/-!
Contract: a regular expression, read behind items that are left open.

Owns:
- `OpenState`, a state of the reader in which the items that the first branch begins
  with are left open;
- that every action does the same whatever these items are, unless it repeats the
  last of them, and hence that a text is read alike behind any of them.

Does not own: how the regular expressions compare that come out.
-/

namespace LineTemplate

namespace PatternReader

/-! ### Open beginnings -/

/-- The branches of a group, the first of which begins with items that are left
open. -/
inductive OpenLevel where
  /-- The first branch is being read: its items behind the open ones, last first. -/
  | first (items : List Pattern)
  /-- The first branch is finished: its items behind the open ones, then the finished
  branches behind it and the items of the current one, last first each. -/
  | later (begun branches items : List Pattern)

namespace OpenLevel

def branches (base : List Pattern) : OpenLevel → List Pattern
  | .first _ => []
  | .later begun branches _ => branches ++ [.ofItems (base ++ begun)]

def items (base : List Pattern) : OpenLevel → List Pattern
  | .first items => items ++ base.reverse
  | .later _ _ items => items

def add (item : Pattern) : OpenLevel → OpenLevel
  | .first items => .first (item :: items)
  | .later begun branches items => .later begun branches (item :: items)

def endBranch : OpenLevel → OpenLevel
  | .first items => .later items.reverse [] []
  | .later begun branches items => .later begun (.ofItems items.reverse :: branches) []

/-- The items behind the open ones in the first branch. -/
def begun : OpenLevel → List Pattern
  | .first items => items.reverse
  | .later begun _ _ => begun

/-- The branches behind the first one. -/
def others : OpenLevel → List Pattern
  | .first _ => []
  | .later _ branches items => branches.reverse ++ [.ofItems items.reverse]

end OpenLevel

/-- A state of the reader in which the items that the first branch of the whole
begins with are left open. -/
inductive OpenState where
  | outside (level : OpenLevel) (verbose : Bool)
  /-- Groups are open, the outermost of which is of the given kind. -/
  | inside (inner : List Surrounding) (kind : GroupKind) (level : OpenLevel)
      (verboseOutside : Bool) (branches items : List Pattern) (verbose : Bool)

namespace OpenState

/-- The state with some items in the open place. -/
def fill (base : List Pattern) : OpenState → ReaderState
  | .outside level verbose => ⟨[], level.branches base, level.items base, verbose⟩
  | .inside inner kind level verboseOutside branches items verbose =>
      ⟨inner ++ [⟨kind, level.branches base, level.items base, verboseOutside⟩], branches, items,
        verbose⟩

def add (item : Pattern) : OpenState → OpenState
  | .outside level verbose => .outside (level.add item) verbose
  | .inside inner kind level verboseOutside branches items verbose =>
      .inside inner kind level verboseOutside branches (item :: items) verbose

def endBranch : OpenState → OpenState
  | .outside level verbose => .outside level.endBranch verbose
  | .inside inner kind level verboseOutside branches items verbose =>
      .inside inner kind level verboseOutside (.ofItems items.reverse :: branches) [] verbose

def setVerbose (settings : FlagSettings) : OpenState → OpenState
  | .outside level verbose => .outside level ((settings.lookup .verbose).getD verbose)
  | .inside inner kind level verboseOutside branches items verbose =>
      .inside inner kind level verboseOutside branches items
        ((settings.lookup .verbose).getD verbose)

def enterGroup (kind : GroupKind) : OpenState → OpenState
  | .outside level verbose => .inside [] kind level verbose [] [] verbose
  | .inside inner outermost level verboseOutside branches items verbose =>
      .inside (⟨kind, branches, items, verbose⟩ :: inner) outermost level verboseOutside [] []
        verbose

def opened (state : OpenState) : GroupOpening → OpenState
  | .group (.capture name) => state.enterGroup (.capture name)
  | .group (.plain settings) => (state.enterGroup (.plain settings)).setVerbose settings
  | .flags settings => (state.add (.flags settings)).setVerbose settings

def close? : OpenState → Option OpenState
  | .outside _ _ => none
  | .inside [] kind level verboseOutside branches items verbose =>
      some (.outside (level.add (.group kind (ReaderState.content ⟨[], branches, items, verbose⟩)))
        verboseOutside)
  | .inside (outer :: inner) kind level verboseOutside branches items verbose =>
      some (.inside inner kind level verboseOutside outer.branches
        (.group outer.kind (ReaderState.content ⟨[], branches, items, verbose⟩) :: outer.items)
        outer.verbose)

/-- The items of a branch, last first, with the last one repeated. -/
def repeatLast? (repetition : Repetition) : List Pattern → Option (List Pattern)
  | [] => none
  | .flags _ :: _ => none
  | item :: items =>
      some (.repeated item repetition.least repetition.most repetition.greedy :: items)

def repeat? (repetition : Repetition) : OpenState → Option OpenState
  | .outside (.first items) verbose =>
      (repeatLast? repetition items).map fun items => .outside (.first items) verbose
  | .outside (.later begun branches items) verbose =>
      (repeatLast? repetition items).map fun items =>
        .outside (.later begun branches items) verbose
  | .inside inner kind level verboseOutside branches items verbose =>
      (repeatLast? repetition items).map fun items =>
        .inside inner kind level verboseOutside branches items verbose

def perform? (state : OpenState) : ReaderAction → Option OpenState
  | .enter opening => some (state.opened opening)
  | .leave => state.close?
  | .endBranch => some state.endBranch
  | .add item => some (state.add item)
  | .repeatLast repetition => state.repeat? repetition

/-- Whether nothing was read behind the open items. -/
def isFresh : OpenState → Bool
  | .outside (.first []) _ => true
  | _ => false

/-! ### Actions on open states -/

variable (base : List Pattern)

theorem fill_add (item : Pattern) (state : OpenState) :
    (state.add item).fill base = (state.fill base).add item := by
  cases state with
  | outside level verbose => cases level <;> rfl
  | inside => rfl

theorem fill_endBranch (state : OpenState) :
    state.endBranch.fill base = (state.fill base).endBranch := by
  cases state with
  | outside level verbose =>
      cases level with
      | first items =>
          simp [endBranch, OpenLevel.endBranch, fill, OpenLevel.branches, OpenLevel.items,
            ReaderState.endBranch]
      | later => rfl
  | inside => rfl

theorem fill_opened (opening : GroupOpening) (state : OpenState) :
    (state.opened opening).fill base = (state.fill base).opened opening := by
  cases opening with
  | group kind =>
      cases kind with
      | capture name => cases state <;> rfl
      | plain settings => cases state <;> rfl
  | flags settings =>
      cases state with
      | outside level verbose => cases level <;> rfl
      | inside => rfl

theorem fill_close? (state : OpenState) :
    (state.fill base).close? = state.close?.map (fill base) := by
  cases state with
  | outside => rfl
  | inside inner kind level verboseOutside branches items verbose =>
      cases inner with
      | nil => cases level <;> rfl
      | cons outer inner => rfl

theorem repeat?_eq_map (state : ReaderState) (repetition : Repetition) :
    state.repeat? repetition =
      (repeatLast? repetition state.items).map fun items => { state with items } := by
  unfold ReaderState.repeat? repeatLast?
  split <;> simp_all

theorem repeatLast?_append (repetition : Repetition) {items : List Pattern}
    (nonempty : items ≠ []) (more : List Pattern) :
    repeatLast? repetition (items ++ more) =
      (repeatLast? repetition items).map fun items => items ++ more := by
  cases items with
  | nil => exact absurd rfl nonempty
  | cons item items => cases item <;> rfl

theorem fill_repeat? (repetition : Repetition) {state : OpenState}
    (begun : state.isFresh = false) :
    (state.fill base).repeat? repetition = (state.repeat? repetition).map (fill base) := by
  rw [repeat?_eq_map]
  cases state with
  | outside level verbose =>
      cases level with
      | first items =>
          have nonempty : items ≠ [] := by
            rintro rfl
            cases begun
          simp only [fill, OpenLevel.items, repeatLast?_append repetition nonempty, repeat?,
            Option.map_map]
          rfl
      | later begun branches items =>
          simp only [fill, OpenLevel.items, repeat?, Option.map_map]
          rfl
  | inside =>
      simp only [fill, repeat?, Option.map_map]
      rfl

/-- What an action does does not depend on the open items, unless it repeats the last
of them. -/
theorem fill_perform? {state : OpenState} {action : ReaderAction}
    (kept : ∀ repetition, action = .repeatLast repetition → state.isFresh = false) :
    action.perform? (state.fill base) = (state.perform? action).map (fill base) := by
  cases action with
  | enter opening => exact congrArg some (fill_opened base opening state).symm
  | leave => exact fill_close? base state
  | endBranch => exact congrArg some (fill_endBranch base state).symm
  | add item => exact congrArg some (fill_add base item state).symm
  | repeatLast repetition => exact fill_repeat? base repetition (kept repetition rfl)

theorem isFresh_outside_add (item : Pattern) (level : OpenLevel) (verbose : Bool) :
    (outside (level.add item) verbose).isFresh = false := by
  cases level <;> rfl

theorem isFresh_setVerbose (settings : FlagSettings) (state : OpenState) :
    (state.setVerbose settings).isFresh = state.isFresh := by
  cases state with
  | outside level verbose =>
      cases level with
      | first items => cases items <;> rfl
      | later => rfl
  | inside => rfl

theorem isFresh_add (item : Pattern) (state : OpenState) : (state.add item).isFresh = false := by
  cases state with
  | outside level verbose => exact isFresh_outside_add item level verbose
  | inside => rfl

theorem isFresh_of_repeat? {repetition : Repetition} {state next : OpenState}
    (repeated : state.repeat? repetition = some next) : next.isFresh = false := by
  cases state with
  | outside level verbose =>
      cases level with
      | first items =>
          obtain ⟨others, found, rfl⟩ := Option.map_eq_some_iff.1 repeated
          unfold repeatLast? at found
          split at found
          · cases found
          · cases found
          · cases found
            rfl
      | later =>
          obtain ⟨others, -, rfl⟩ := Option.map_eq_some_iff.1 repeated
          rfl
  | inside =>
      obtain ⟨others, -, rfl⟩ := Option.map_eq_some_iff.1 repeated
      rfl

/-- After an action, something was read. -/
theorem isFresh_of_perform? {state next : OpenState} {action : ReaderAction}
    (applied : state.perform? action = some next) : next.isFresh = false := by
  cases action with
  | enter opening =>
      cases applied
      cases opening with
      | group kind =>
          cases kind with
          | capture name => cases state <;> rfl
          | plain settings => cases state <;> rfl
      | flags settings =>
          rw [opened, isFresh_setVerbose]
          exact isFresh_add _ state
  | leave =>
      cases state with
      | outside => cases applied
      | inside inner kind level verboseOutside branches items verbose =>
          cases inner with
          | nil =>
              cases applied
              exact isFresh_outside_add _ level verboseOutside
          | cons outer inner =>
              cases applied
              rfl
  | endBranch =>
      cases applied
      cases state with
      | outside level verbose => cases level <;> rfl
      | inside => rfl
  | add item =>
      cases applied
      exact isFresh_add item state
  | repeatLast repetition => exact isFresh_of_repeat? applied

end OpenState

/-! ### Runs from open states -/

namespace OpenState

def verbose : OpenState → Bool
  | .outside _ verbose => verbose
  | .inside _ _ _ _ _ _ verbose => verbose

theorem verbose_fill (base : List Pattern) (state : OpenState) :
    (state.fill base).verbose = state.verbose := by
  cases state <;> rfl

end OpenState

/-- The choice between a branch that begins with some items and other branches. -/
def choiceFrom (base begun others : List Pattern) : Pattern :=
  .ofBranches (.ofItems (base ++ begun) :: others)

/-- At the end of a text, the open items begin the first branch. -/
theorem exists_choiceFrom_of_finish? {base : List Pattern} {state : OpenState} {pattern : Pattern}
    (finished : (state.fill base).finish? = some pattern) :
    ∃ begun others, pattern = choiceFrom base begun others ∧
      ∀ other, (state.fill other).finish? = some (choiceFrom other begun others) := by
  have content : ∀ (level : OpenLevel) (verbose : Bool) (other : List Pattern),
      ((OpenState.outside level verbose).fill other).content =
        choiceFrom other level.begun level.others := by
    intro level verbose other
    cases level with
    | first items =>
        simp [OpenState.fill, ReaderState.content, OpenLevel.branches, OpenLevel.items, choiceFrom,
          OpenLevel.begun, OpenLevel.others]
    | later begun branches items =>
        simp [OpenState.fill, ReaderState.content, OpenLevel.branches, OpenLevel.items, choiceFrom,
          OpenLevel.begun, OpenLevel.others]
  cases state with
  | outside level verbose =>
      refine ⟨level.begun, level.others, ?_, fun other => ?_⟩
      · rw [← content level verbose base]
        exact (Option.some.inj finished).symm
      · rw [← content level verbose other]
        rfl
  | inside => simp [OpenState.fill, ReaderState.finish?] at finished

/-- A run reads the same whatever the open items are, if it does not begin by
repeating the last of them. -/
theorem Reading.exists_choiceFrom {base : List Pattern} {state : OpenState} {text : Text}
    {pattern : Pattern} (reading : Reading (state.fill base) text pattern)
    (kept : state.isFresh = true → Settles (skip state.verbose text)) :
    ∃ begun others, pattern = choiceFrom base begun others ∧
      ∀ other, Reading (state.fill other) text (choiceFrom other begun others) := by
  generalize filled : state.fill base = start at reading
  induction reading generalizing state with
  | done skipped finished =>
      subst filled
      obtain ⟨begun, others, same, each⟩ := exists_choiceFrom_of_finish? finished
      refine ⟨begun, others, same, fun other => .done ?_ (each other)⟩
      rw [OpenState.verbose_fill] at skipped ⊢
      exact skipped
  | @step _ _ text _ _ _ action _ skipped found applied _ inductionHypothesis =>
      subst filled
      rw [OpenState.verbose_fill] at skipped found
      have single : ∀ repetition, action = .repeatLast repetition → state.isFresh = false := by
        rintro repetition rfl
        rw [Bool.eq_false_iff]
        intro fresh
        refine ReaderAction.ne_repeatLast_of_read? ?_ found
        have settled := kept fresh
        rw [skipped] at settled
        exact settled _ rfl
      rw [OpenState.fill_perform? base single] at applied
      obtain ⟨next, reached, same⟩ := Option.map_eq_some_iff.1 applied
      have begun := OpenState.isFresh_of_perform? reached
      obtain ⟨begun, others, whole, each⟩ := inductionHypothesis
        (fun fresh => absurd (begun.symm.trans fresh) (by decide)) same
      refine ⟨begun, others, whole, fun other => ?_⟩
      have applies : action.perform? (state.fill other) = some (next.fill other) := by
        rw [OpenState.fill_perform? other single, reached, Option.map_some]
      rw [← OpenState.verbose_fill other] at skipped found
      exact .step skipped found applies (each other)

/-- Behind some items, a text that does not repeat the last of them is read as it is
behind any other items. -/
theorem exists_readFrom_addAll {base : List Pattern} {text : Text} {pattern : Pattern}
    (settled : Settles text) (read : readFrom (ReaderState.start.addAll base) text = some pattern) :
    ∃ begun others, pattern = choiceFrom base begun others ∧
      ∀ other, readFrom (ReaderState.start.addAll other) text =
        some (choiceFrom other begun others) := by
  have start : ∀ other, (OpenState.outside (.first []) false).fill other =
      ReaderState.start.addAll other := by
    intro other
    simp [OpenState.fill, OpenLevel.branches, OpenLevel.items, ReaderState.addAll,
      ReaderState.start]
  rw [← start] at read
  obtain ⟨begun, others, same, each⟩ := (reading_of_readFrom read).exists_choiceFrom fun _ => by
    rw [OpenState.verbose, skip_false]
    exact settled
  exact ⟨begun, others, same, fun other => by rw [← start]; exact (each other).readFrom⟩

end PatternReader

end LineTemplate
