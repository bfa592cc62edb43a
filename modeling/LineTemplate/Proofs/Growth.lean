import LineTemplate.Proofs.GroupedRules
import LineTemplate.Proofs.TextLines

/-!
Contract: what further lines do to a template.

Owns:
- the ways in which variables, states and lists of them grow;
- that a statement makes a draft grow, and lines one after another do;
- that lines which fail do so whatever lines follow them;
- `Template.buildWith_growsTo`, for any assembler.

Does not own: which lines fail.
-/

namespace LineTemplate

/-! ### Growing lists -/

/-- Every value of a list grows in its place, and further values stand behind. -/
inductive ListGrows {α : Type} (grows : α → α → Prop) : List α → List α → Prop
  | nil (more : List α) : ListGrows grows [] more
  | cons {first other : α} {rest others : List α}
      (single : grows first other)
      (later : ListGrows grows rest others) :
      ListGrows grows (first :: rest) (other :: others)

namespace ListGrows

variable {α : Type} {grows : α → α → Prop} {earlier middle later : List α}

theorem map (image : α → α) (each : ∀ value, grows value (image value)) :
    ListGrows grows earlier (earlier.map image) := by
  induction earlier with
  | nil => exact .nil []
  | cons first rest inductionHypothesis => exact .cons (each first) inductionHypothesis

theorem append (each : ∀ value, grows value value) (more : List α) :
    ListGrows grows earlier (earlier ++ more) := by
  induction earlier with
  | nil => exact .nil more
  | cons first rest inductionHypothesis => exact .cons (each first) inductionHypothesis

theorem refl (each : ∀ value, grows value value) : ListGrows grows earlier earlier := by
  have grown : ListGrows grows earlier (earlier ++ []) := append each []
  rwa [List.append_nil] at grown

theorem trans (each : ∀ {first second third}, grows first second → grows second third →
      grows first third)
    (before : ListGrows grows earlier middle) (after : ListGrows grows middle later) :
    ListGrows grows earlier later := by
  induction before generalizing later with
  | nil more => exact .nil later
  | cons single rest inductionHypothesis =>
      cases after with
      | cons next others => exact .cons (each single next) (inductionHypothesis others)

theorem exists_of_mem (grown : ListGrows grows earlier later) {value : α}
    (among : value ∈ earlier) : ∃ other ∈ later, grows value other := by
  induction grown with
  | nil => cases among
  | cons single rest inductionHypothesis =>
      rcases List.mem_cons.mp among with rfl | behind
      · exact ⟨_, List.mem_cons_self, single⟩
      · obtain ⟨other, member, grown⟩ := inductionHypothesis behind
        exact ⟨other, List.mem_cons_of_mem _ member, grown⟩

/-- What growing values keep stands at the beginning of the same of a grown list. -/
theorem map_begins {β : Type} {kept : α → β}
    (each : ∀ {first second}, grows first second → kept second = kept first)
    (grown : ListGrows grows earlier later) : earlier.map kept <+: later.map kept := by
  induction grown with
  | nil more => exact List.nil_prefix
  | cons single rest inductionHypothesis =>
      rw [List.map_cons, List.map_cons, each single, List.prefix_cons_inj]
      exact inductionHypothesis

end ListGrows

/-! ### Growing variables -/

/-- A variable keeps its name and its pattern and may get further options. -/
structure Variable.GrowsTo (earlier later : Variable) : Prop where
  name : later.name = earlier.name
  pattern : later.pattern = earlier.pattern
  options : earlier.options <+: later.options

namespace Variable

theorem GrowsTo.refl (known : Variable) : known.GrowsTo known :=
  ⟨rfl, rfl, List.prefix_rfl⟩

theorem GrowsTo.trans {first second third : Variable} (before : first.GrowsTo second)
    (after : second.GrowsTo third) : first.GrowsTo third where
  name := after.name.trans before.name
  pattern := after.pattern.trans before.pattern
  options := before.options.trans after.options

theorem growsTo_addOption (known : Variable) (option : ValueOption) :
    known.GrowsTo (known.addOption option) := by
  unfold addOption
  split
  · exact .refl known
  · exact ⟨rfl, rfl, List.prefix_append _ _⟩

end Variable

namespace Draft

theorem growsTo_mergeOptions (known : Variable) (options : List ValueOption) :
    known.GrowsTo (mergeOptions known options) := by
  unfold mergeOptions
  induction options generalizing known with
  | nil => exact .refl known
  | cons option options inductionHypothesis =>
      exact (known.growsTo_addOption option).trans (inductionHypothesis _)

/-- A capture that is declared lets the other declarations be as they are. -/
theorem grows_of_declareIn {captured : Variable} {known next : List Variable}
    (declared : declareIn captured known = .ok next) :
    ListGrows Variable.GrowsTo known next := by
  induction known generalizing next with
  | nil => exact .nil next
  | cons single more inductionHypothesis =>
      unfold declareIn at declared
      split at declared
      · split at declared
        · cases declared
          exact .cons (growsTo_mergeOptions single _) (.refl .refl)
        · cases declared
      · cases later : declareIn captured more with
        | error cause =>
            rw [later] at declared
            cases declared
        | ok rest =>
            rw [later] at declared
            cases declared
            exact .cons (.refl single) (inductionHypothesis later)

theorem grows_of_declareAll {captured known next : List Variable}
    (declared : declareAll known captured = .ok next) :
    ListGrows Variable.GrowsTo known next := by
  induction captured generalizing known with
  | nil =>
      cases declared
      exact .refl .refl
  | cons single more inductionHypothesis =>
      unfold declareAll at declared
      rw [List.foldlM_cons] at declared
      obtain ⟨middle, first, rest⟩ := bind_eq_ok_iff.mp declared
      exact .trans .trans (grows_of_declareIn first) (inductionHypothesis rest)

end Draft

/-! ### Growing states -/

/-- A state keeps its name and may get further rules behind the ones it has. -/
structure State.GrowsTo (earlier later : State) : Prop where
  name : later.name = earlier.name
  statements : earlier.statements <+: later.statements

theorem State.GrowsTo.refl (state : State) : state.GrowsTo state :=
  ⟨rfl, List.prefix_rfl⟩

theorem State.GrowsTo.trans {first second third : State} (before : first.GrowsTo second)
    (after : second.GrowsTo third) : first.GrowsTo third where
  name := after.name.trans before.name
  statements := before.statements.trans after.statements

namespace Draft

/-- A draft grows in its declarations and in its states. -/
structure GrowsTo (earlier later : Draft) : Prop where
  declared : ListGrows Variable.GrowsTo earlier.declared later.declared
  states : ListGrows State.GrowsTo earlier.states later.states

theorem GrowsTo.refl (draft : Draft) : draft.GrowsTo draft :=
  ⟨.refl .refl, .refl .refl⟩

theorem GrowsTo.trans {first second third : Draft} (before : first.GrowsTo second)
    (after : second.GrowsTo third) : first.GrowsTo third where
  declared := .trans .trans before.declared after.declared
  states := .trans .trans before.states after.states

theorem growsTo_enter (draft : Draft) (name : Text) : draft.GrowsTo (draft.enter name) := by
  refine ⟨.refl .refl, ?_⟩
  unfold enter
  dsimp only
  split
  · exact .refl .refl
  · exact .append .refl _

theorem grows_appendRule (name rule : Text) (states : List State) :
    ListGrows State.GrowsTo states (appendRule name rule states) := by
  apply ListGrows.map
  intro state
  split
  · exact ⟨rfl, List.prefix_append _ _⟩
  · exact .refl state

variable {assembler : Assembler} {defaultState : Text}

theorem growsTo_addRule (draft : Draft) (rule : Text) :
    draft.GrowsTo (draft.addRule defaultState rule) := by
  have entered := draft.growsTo_enter (draft.current.getD defaultState)
  exact ⟨entered.declared, .trans .trans entered.states (grows_appendRule _ rule _)⟩

/-- A statement that is added makes a draft grow. -/
theorem growsTo_of_add {draft next : Draft} {statement : Statement}
    (added : draft.add defaultState statement = .ok next) : draft.GrowsTo next := by
  unfold add at added
  cases kind : statement.kind with
  | blank =>
      rw [kind] at added
      cases added
      exact .refl draft
  | stateName =>
      rw [kind] at added
      cases added
      exact draft.growsTo_enter _
  | rule =>
      rw [kind] at added
      cases outcome : declareAll draft.declared statement.captured with
      | error cause =>
          rw [outcome] at added
          cases added
      | ok declared =>
          rw [outcome] at added
          cases added
          have declaring : draft.GrowsTo { draft with declared } :=
            ⟨grows_of_declareAll outcome, .refl .refl⟩
          exact declaring.trans (growsTo_addRule _ statement.text)

/-! ### Lines one after another -/

/-- Lines are taken in after the lines before them, unless those fail. -/
theorem addLines_append (draft : Draft) (number : Nat) (before more : List Text) :
    draft.addLines assembler defaultState number (before ++ more) =
      draft.addLines assembler defaultState number before >>= fun next =>
        next.addLines assembler defaultState (number + before.length) more := by
  induction before generalizing draft number with
  | nil => rfl
  | cons line before inductionHypothesis =>
      rw [List.cons_append]
      cases assembled : assembler line with
      | error cause =>
          rw [addLines, addLines, assembled]
          rfl
      | ok statement =>
          rw [addLines_cons assembled, addLines_cons assembled, List.length_cons]
          cases draft.add defaultState statement with
          | error cause => rfl
          | ok next =>
              have shifted : number + (before.length + 1) = number + 1 + before.length := by
                omega
              rw [shifted]
              exact inductionHypothesis next (number + 1)

theorem growsTo_of_addLines {draft final : Draft} {number : Nat} {lines : List Text}
    (taken : draft.addLines assembler defaultState number lines = .ok final) :
    draft.GrowsTo final := by
  induction lines generalizing draft number with
  | nil =>
      cases taken
      exact .refl final
  | cons line more inductionHypothesis =>
      cases assembled : assembler line with
      | error cause =>
          rw [addLines, assembled] at taken
          cases taken
      | ok statement =>
          rw [addLines_cons assembled] at taken
          obtain ⟨next, added, rest⟩ := bind_eq_ok_iff.mp taken
          exact (growsTo_of_add added).trans (inductionHypothesis rest)

end Draft

/-! ### Templates -/

namespace Template

variable {assembler : Assembler} {defaultState : Text} {metadata : Option Metadata}

/-- A template grows: its states keep their order and their names, and each its rules; its
variables keep their places, their names and their patterns. -/
structure GrowsTo (earlier later : Template) : Prop where
  names : earlier.states.map State.name <+: later.states.map State.name
  statements : ∀ state ∈ earlier.states, ∀ other ∈ later.states, other.name = state.name →
    state.statements <+: other.statements
  declared : ListGrows Variable.GrowsTo earlier.declared later.declared

/-- A failure other than that of an empty template is one of the lines. -/
theorem addLines_eq_error_of_buildWith {text : Text} {fault : TemplateError}
    (filled : fault ≠ .emptyTemplate)
    (failed : buildWith assembler defaultState metadata text = .error fault) :
    Draft.empty.addLines assembler defaultState 1 (Text.lines text) = .error fault := by
  unfold buildWith at failed
  split at failed
  · rename_i cause taken
    rw [taken]
    cases failed
    rfl
  · split at failed
    · cases failed
    · exact absurd (Except.error.inj failed).symm filled

theorem buildWith_of_addLines_error {text : Text} {fault : TemplateError}
    (failed : Draft.empty.addLines assembler defaultState 1 (Text.lines text) = .error fault) :
    buildWith assembler defaultState metadata text = .error fault := by
  rw [buildWith, failed]

/-- Where the lines of a text come first in another one, a failure of theirs is that of the
other, and the other's template is grown from theirs. -/
theorem growsTo_of_lines_begin {other : Option Metadata} {shorter longer : Text}
    (first : Text.lines shorter <+: Text.lines longer) :
    (∀ fault, fault ≠ .emptyTemplate →
        buildWith assembler defaultState metadata shorter = .error fault →
        buildWith assembler defaultState other longer = .error fault) ∧
      ∀ earlier later, buildWith assembler defaultState metadata shorter = .ok earlier →
        buildWith assembler defaultState other longer = .ok later →
        earlier.GrowsTo later := by
  obtain ⟨more, whole⟩ := first
  refine ⟨?_, ?_⟩
  · intro fault filled failed
    apply buildWith_of_addLines_error
    rw [← whole, Draft.addLines_append, addLines_eq_error_of_buildWith filled failed]
    rfl
  · intro earlier later builtEarlier builtLater
    have distinct := nodup_names_of_buildWith builtLater
    obtain ⟨draft, taken, rfl⟩ := buildWith_eq_ok builtEarlier
    obtain ⟨final, takenAll, rfl⟩ := buildWith_eq_ok builtLater
    rw [← whole, Draft.addLines_append, taken] at takenAll
    have grown : draft.GrowsTo final := Draft.growsTo_of_addLines takenAll
    refine ⟨grown.states.map_begins fun single => single.name, ?_, grown.declared⟩
    intro state among later member same
    obtain ⟨known, inFinal, single⟩ := grown.states.exists_of_mem among
    have unique : later = known :=
      List.inj_on_of_nodup_map distinct member inFinal (same.trans single.name.symm)
    rw [unique]
    exact single.statements

/-- Lines that fail do so whatever lines follow, and where a template is built, further lines
make it grow. -/
theorem buildWith_growsTo (assembler : Assembler) (defaultState : Text)
    (metadata other : Option Metadata) (ended : Bool) {lines more : List Text}
    (areLines : ∀ line ∈ lines ++ more, Text.IsLine line) :
    (∀ fault, fault ≠ .emptyTemplate →
        buildWith assembler defaultState metadata (Text.ofLines ended lines) = .error fault →
        buildWith assembler defaultState other (Text.ofLines ended (lines ++ more)) =
          .error fault) ∧
      ∀ earlier later,
        buildWith assembler defaultState metadata (Text.ofLines ended lines) = .ok earlier →
        buildWith assembler defaultState other (Text.ofLines ended (lines ++ more)) =
          .ok later →
        earlier.GrowsTo later :=
  growsTo_of_lines_begin (Text.lines_ofLines_begins ended areLines)

/-- A state that was left gets another rule, and a declared variable another option. -/
theorem buildWith_growsTo_reopened :
    (∀ line ∈ ["a digits(var_a,key)".toList] ++
          ["Peers".toList, "b word(var_b)".toList, "Start".toList, "c digits(var_a,list)".toList],
        Text.IsLine line) ∧
      buildWith Statement.assemble startState none
          (Text.ofLines false ["a digits(var_a,key)".toList]) =
        .ok ⟨none, [⟨"a".toList, "\\d+".toList, [.key]⟩],
          [⟨startState, ["  ^a $\x7ba\x7d".toList]⟩]⟩ ∧
      buildWith Statement.assemble startState none
          (Text.ofLines false (["a digits(var_a,key)".toList] ++
            ["Peers".toList, "b word(var_b)".toList, "Start".toList,
              "c digits(var_a,list)".toList])) =
        .ok ⟨none,
          [⟨"a".toList, "\\d+".toList, [.key, .list]⟩,
            ⟨"b".toList, "[a-zA-Z][a-zA-Z0-9]*".toList, []⟩],
          [⟨startState, ["  ^a $\x7ba\x7d".toList, "  ^c $\x7ba\x7d".toList]⟩,
            ⟨"Peers".toList, ["  ^b $\x7bb\x7d".toList]⟩]⟩ ∧
      GrowsTo
        ⟨none, [⟨"a".toList, "\\d+".toList, [.key]⟩],
          [⟨startState, ["  ^a $\x7ba\x7d".toList]⟩]⟩
        ⟨none,
          [⟨"a".toList, "\\d+".toList, [.key, .list]⟩,
            ⟨"b".toList, "[a-zA-Z][a-zA-Z0-9]*".toList, []⟩],
          [⟨startState, ["  ^a $\x7ba\x7d".toList, "  ^c $\x7ba\x7d".toList]⟩,
            ⟨"Peers".toList, ["  ^b $\x7bb\x7d".toList]⟩]⟩ := by
  have areLines : ∀ line ∈ ["a digits(var_a,key)".toList] ++
      ["Peers".toList, "b word(var_b)".toList, "Start".toList, "c digits(var_a,list)".toList],
      Text.IsLine line := by
    decide
  have earlier : buildWith Statement.assemble startState none
        (Text.ofLines false ["a digits(var_a,key)".toList]) =
      .ok ⟨none, [⟨"a".toList, "\\d+".toList, [.key]⟩],
        [⟨startState, ["  ^a $\x7ba\x7d".toList]⟩]⟩ := eq_ok_of_toOption (by decide +kernel)
  have later : buildWith Statement.assemble startState none
        (Text.ofLines false (["a digits(var_a,key)".toList] ++
          ["Peers".toList, "b word(var_b)".toList, "Start".toList,
            "c digits(var_a,list)".toList])) =
      .ok ⟨none,
        [⟨"a".toList, "\\d+".toList, [.key, .list]⟩,
          ⟨"b".toList, "[a-zA-Z][a-zA-Z0-9]*".toList, []⟩],
        [⟨startState, ["  ^a $\x7ba\x7d".toList, "  ^c $\x7ba\x7d".toList]⟩,
          ⟨"Peers".toList, ["  ^b $\x7bb\x7d".toList]⟩]⟩ := eq_ok_of_toOption (by decide +kernel)
  refine ⟨areLines, earlier, later, ?_⟩
  have grown := buildWith_growsTo Statement.assemble startState none none false areLines
  exact grown.2 _ _ earlier later

end Template

end LineTemplate
