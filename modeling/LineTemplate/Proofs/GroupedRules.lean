import LineTemplate.Proofs.Drafts
import LineTemplate.Proofs.Occurrences
import LineTemplate.Template.Grouping

/-!
Contract: the states of a template and the rules in them.

Owns:
- what the names of states and the rules under them are when a statement follows others;
- that the states of a draft are those of the statements added to it;
- `Template.groupsRules`, for any judge and engine.

Does not own: the variables of a template.
-/

namespace LineTemplate

namespace Statement

/-! ### Names in use -/

theorem usedNames_append (current : Text) (before more : List Statement) :
    usedNames current (before ++ more) =
      usedNames current before ++ usedNames ((usedNames current before).getLast?.getD current) more := by
  induction before generalizing current with
  | nil => rfl
  | cons statement before inductionHypothesis =>
      cases kind : statement.kind with
      | blank => simp [usedNames, kind, inductionHypothesis]
      | stateName => simp [usedNames, kind, inductionHypothesis, List.getLast?_cons]
      | rule => simp [usedNames, kind, inductionHypothesis, List.getLast?_cons]

theorem rulesUnder_append (name current : Text) (before more : List Statement) :
    rulesUnder name current (before ++ more) =
      rulesUnder name current before ++
        rulesUnder name ((usedNames current before).getLast?.getD current) more := by
  induction before generalizing current with
  | nil => rfl
  | cons statement before inductionHypothesis =>
      cases kind : statement.kind with
      | blank => simp [usedNames, rulesUnder, kind, inductionHypothesis]
      | stateName => simp [usedNames, rulesUnder, kind, inductionHypothesis, List.getLast?_cons]
      | rule =>
          by_cases same : current = name
          · simp [usedNames, rulesUnder, kind, inductionHypothesis, List.getLast?_cons, same]
          · simp [usedNames, rulesUnder, kind, inductionHypothesis, List.getLast?_cons, same]

theorem rulesUnder_of_unused {name current : Text} {statements : List Statement}
    (unused : name ∉ usedNames current statements) : rulesUnder name current statements = [] := by
  induction statements generalizing current with
  | nil => rfl
  | cons statement more inductionHypothesis =>
      unfold usedNames at unused
      unfold rulesUnder
      cases kind : statement.kind with
      | blank =>
          rw [kind] at unused
          exact inductionHypothesis unused
      | stateName =>
          rw [kind] at unused
          exact inductionHypothesis (List.not_mem_of_not_mem_cons unused)
      | rule =>
          rw [kind] at unused
          dsimp only
          rw [if_neg (List.ne_of_not_mem_cons unused).symm]
          exact inductionHypothesis (List.not_mem_of_not_mem_cons unused)

/-- Whether a statement gives a state this name. -/
def Names (statement : Statement) (name : Text) : Prop :=
  statement.kind = .stateName ∧ statement.stateName = name

/-- Some rule comes before any name of a state. -/
def StartsUnnamed (statements : List Statement) : Prop :=
  ∃ before rule after, statements = before ++ rule :: after ∧ rule.kind = .rule ∧
    ∀ earlier ∈ before, earlier.kind ≠ .stateName

theorem StartsUnnamed.cons {statement : Statement} {more : List Statement}
    (unnamed : StartsUnnamed more) (other : statement.kind ≠ .stateName) :
    StartsUnnamed (statement :: more) := by
  obtain ⟨before, rule, after, rfl, isRule, noName⟩ := unnamed
  exact ⟨statement :: before, rule, after, rfl, isRule, List.forall_mem_cons.mpr ⟨other, noName⟩⟩

/-- A name is in use because a statement gives it, or as the current one because a rule
comes first. -/
theorem named_of_mem_usedNames {name current : Text} {statements : List Statement}
    (used : name ∈ usedNames current statements) :
    (∃ statement ∈ statements, statement.Names name) ∨
      name = current ∧ StartsUnnamed statements := by
  induction statements generalizing current with
  | nil => cases used
  | cons statement more inductionHypothesis =>
      unfold usedNames at used
      cases kind : statement.kind with
      | blank =>
          rw [kind] at used
          rcases inductionHypothesis used with ⟨naming, among, names⟩ | ⟨same, unnamed⟩
          · exact .inl ⟨naming, List.mem_cons_of_mem _ among, names⟩
          · exact .inr ⟨same, unnamed.cons (by simp [kind])⟩
      | stateName =>
          rw [kind] at used
          rcases List.mem_cons.mp used with same | usedLater
          · exact .inl ⟨statement, List.mem_cons_self, kind, same.symm⟩
          · rcases inductionHypothesis usedLater with ⟨naming, among, names⟩ | ⟨same, -⟩
            · exact .inl ⟨naming, List.mem_cons_of_mem _ among, names⟩
            · exact .inl ⟨statement, List.mem_cons_self, kind, same.symm⟩
      | rule =>
          rw [kind] at used
          rcases List.mem_cons.mp used with same | usedLater
          · exact .inr ⟨same, [], statement, more, rfl, kind, by simp⟩
          · rcases inductionHypothesis usedLater with ⟨naming, among, names⟩ | ⟨same, unnamed⟩
            · exact .inl ⟨naming, List.mem_cons_of_mem _ among, names⟩
            · exact .inr ⟨same, unnamed.cons (by simp [kind])⟩

theorem usedNames_of_noName {current : Text} {statements : List Statement}
    (noName : ∀ statement ∈ statements, statement.kind ≠ .stateName) :
    (usedNames current statements).getLast?.getD current = current := by
  induction statements with
  | nil => rfl
  | cons statement more inductionHypothesis =>
      have later := inductionHypothesis (List.forall_mem_cons.mp noName).2
      unfold usedNames
      cases kind : statement.kind with
      | blank => exact later
      | stateName => exact absurd kind (List.forall_mem_cons.mp noName).1
      | rule => simpa [List.getLast?_cons] using later

/-- Rules that come before any name of a state are under the current one. -/
theorem rulesUnder_ne_nil {current : Text} {statements : List Statement}
    (unnamed : StartsUnnamed statements) : rulesUnder current current statements ≠ [] := by
  obtain ⟨before, rule, after, rfl, isRule, noName⟩ := unnamed
  rw [rulesUnder_append, usedNames_of_noName noName]
  simp [rulesUnder, isRule]

/-- No rule gets lost: it is under the name that is used for it. -/
theorem exists_mem_rulesUnder (current : Text) {statements : List Statement} {rule : Statement}
    (among : rule ∈ statements) (isRule : rule.kind = .rule) :
    ∃ name ∈ usedNames current statements, rule.text ∈ rulesUnder name current statements := by
  obtain ⟨before, after, rfl⟩ := List.append_of_mem among
  refine ⟨(usedNames current before).getLast?.getD current, ?_, ?_⟩
  · rw [usedNames_append]
    simp [usedNames, isRule]
  · rw [rulesUnder_append]
    simp [rulesUnder, isRule]

theorem exists_rule_of_mem_rulesUnder {name current text : Text} {statements : List Statement}
    (under : text ∈ rulesUnder name current statements) :
    ∃ rule ∈ statements, rule.kind = .rule ∧ rule.text = text := by
  induction statements generalizing current with
  | nil => cases under
  | cons statement more inductionHypothesis =>
      have later : ∀ {current}, text ∈ rulesUnder name current more →
          ∃ rule ∈ statement :: more, rule.kind = .rule ∧ rule.text = text := by
        intro current under
        obtain ⟨rule, among, isRule⟩ := inductionHypothesis under
        exact ⟨rule, List.mem_cons_of_mem _ among, isRule⟩
      unfold rulesUnder at under
      cases kind : statement.kind with
      | blank =>
          rw [kind] at under
          exact later under
      | stateName =>
          rw [kind] at under
          exact later under
      | rule =>
          rw [kind] at under
          dsimp only at under
          split at under
          · rcases List.mem_cons.mp under with same | under
            · exact ⟨statement, List.mem_cons_self, kind, same.symm⟩
            · exact later under
          · exact later under

end Statement

/-! ### States of a draft -/

namespace Draft

open Statement

/-- The states of a draft are those of the statements added to it, and the current one is
the one used last. -/
structure Follows (defaultState : Text) (statements : List Statement) (draft : Draft) : Prop where
  states : draft.states = statesOf defaultState statements
  current : draft.current = (usedNames defaultState statements).getLast?

variable {defaultState : Text} {before : List Statement} {draft : Draft}

theorem follows_empty (defaultState : Text) : empty.Follows defaultState [] := ⟨rfl, rfl⟩

theorem Follows.currentName (follows : draft.Follows defaultState before) :
    draft.current.getD defaultState =
      (usedNames defaultState before).getLast?.getD defaultState := by
  rw [follows.current]

/-- A state that is entered has no rules yet, or is there already. -/
theorem Follows.states_enter (follows : draft.Follows defaultState before) (name : Text) :
    (draft.enter name).states =
      (usedNames defaultState before ++ [name]).eraseDups.map fun known =>
        ⟨known, rulesUnder known defaultState before⟩ := by
  have present : (draft.states.any fun state => decide (state.name = name)) =
      decide (name ∈ usedNames defaultState before) := by
    rw [follows.states, statesOf]
    simp [List.any_eq, List.mem_eraseDups]
  unfold enter
  dsimp only
  rw [present, follows.states, statesOf]
  by_cases used : name ∈ usedNames defaultState before
  · rw [eraseDups_concat_of_mem used, if_pos (decide_eq_true used)]
  · rw [eraseDups_concat_of_not_mem used, if_neg (by simpa using used), List.map_append,
      List.map_singleton, rulesUnder_of_unused used]

/-- A statement that is added makes a draft follow it, too. -/
theorem Follows.add {next : Draft} {statement : Statement}
    (follows : draft.Follows defaultState before)
    (added : draft.add defaultState statement = .ok next) :
    next.Follows defaultState (before ++ [statement]) := by
  unfold Draft.add at added
  cases kind : statement.kind with
  | blank =>
      rw [kind] at added
      cases added
      constructor
      · rw [follows.states]
        simp [statesOf, usedNames_append, rulesUnder_append, usedNames, rulesUnder, kind]
      · rw [follows.current]
        simp [usedNames_append, usedNames, kind]
  | stateName =>
      rw [kind] at added
      cases added
      constructor
      · rw [follows.states_enter]
        simp [statesOf, usedNames_append, rulesUnder_append, usedNames, rulesUnder, kind,
          stateName]
      · simp [enter, usedNames_append, usedNames, kind, stateName]
  | rule =>
      rw [kind] at added
      cases declaredAll : declareAll draft.declared statement.captured with
      | error cause =>
          rw [declaredAll] at added
          cases added
      | ok declared =>
          rw [declaredAll] at added
          cases added
          have declaring : Follows defaultState before { draft with declared } :=
            ⟨follows.states, follows.current⟩
          constructor
          · unfold addRule
            dsimp only
            rw [declaring.states_enter, follows.currentName, appendRule, List.map_map, statesOf]
            simp only [usedNames_append, rulesUnder_append, usedNames, rulesUnder, kind]
            -- Only the state that the rule goes to has one rule more.
            refine List.map_congr_left fun known _ => ?_
            dsimp only [Function.comp]
            by_cases same :
              (usedNames defaultState before).getLast?.getD defaultState = known
            · simp [same]
            · simp [same, Ne.symm same]
          · simp [addRule, enter, usedNames_append, usedNames, kind, follows.current]

theorem Follows.foldlM {final : Draft} {statements : List Statement}
    (follows : draft.Follows defaultState before)
    (folded : statements.foldlM (Draft.add defaultState) draft = .ok final) :
    final.Follows defaultState (before ++ statements) := by
  induction statements generalizing draft before with
  | nil =>
      cases folded
      rwa [List.append_nil]
  | cons statement more inductionHypothesis =>
      rw [List.foldlM_cons] at folded
      obtain ⟨next, added, rest⟩ := bind_eq_ok_iff.mp folded
      rw [List.append_cons]
      exact inductionHypothesis (follows.add added) rest

end Draft

/-! ### Templates -/

/-- States group the rules among statements: every rule is in the state that was named
last before it, and no state is there without a rule or a name that is given. -/
structure Statement.GroupedBy (defaultState : Text) (statements : List Statement)
    (states : List State) : Prop where
  names : states.map State.name = (usedNames defaultState statements).eraseDups
  distinct : (states.map State.name).Nodup
  rules : ∀ state ∈ states, state.statements = rulesUnder state.name defaultState statements
  kept : ∀ rule ∈ statements, rule.kind = .rule → ∃ state ∈ states, rule.text ∈ state.statements
  emptyNamed : ∀ state ∈ states, state.statements = [] →
    ∃ statement ∈ statements, statement.Names state.name
  defaultUnnamed : ∀ state ∈ states, state.name = defaultState →
    (¬∃ statement ∈ statements, statement.Names defaultState) → StartsUnnamed statements

theorem Statement.groupedBy_statesOf (defaultState : Text) (statements : List Statement) :
    GroupedBy defaultState statements (statesOf defaultState statements) := by
  have names : (statesOf defaultState statements).map State.name =
      (usedNames defaultState statements).eraseDups := by
    simp [statesOf, Function.comp_def]
  have used : ∀ state ∈ statesOf defaultState statements,
      state.name ∈ usedNames defaultState statements := by
    intro state among
    rw [← List.mem_eraseDups, ← names]
    exact List.mem_map_of_mem among
  have rules : ∀ state ∈ statesOf defaultState statements,
      state.statements = rulesUnder state.name defaultState statements := by
    intro state among
    obtain ⟨name, -, rfl⟩ := List.mem_map.mp among
    rfl
  refine ⟨names, names ▸ nodup_eraseDups _, rules, ?_, ?_, ?_⟩
  · intro rule among isRule
    obtain ⟨name, inUse, under⟩ := exists_mem_rulesUnder defaultState among isRule
    exact ⟨_, List.mem_map_of_mem (List.mem_eraseDups.mpr inUse), under⟩
  · intro state among noRules
    rcases named_of_mem_usedNames (used state among) with named | ⟨same, unnamed⟩
    · exact named
    · rw [rules state among, same] at noRules
      exact absurd noRules (rulesUnder_ne_nil unnamed)
  · rintro state among same unnamed
    rcases named_of_mem_usedNames (used state among) with named | ⟨-, first⟩
    · exact absurd (same ▸ named) unnamed
    · exact first

namespace Template

/-- No two states of a template have one name. -/
theorem nodup_names_of_buildWith {assembler : Assembler} {defaultState text : Text}
    {metadata : Option Metadata} {template : Template}
    (built : buildWith assembler defaultState metadata text = .ok template) :
    (template.states.map State.name).Nodup := by
  obtain ⟨draft, taken, rfl⟩ := buildWith_eq_ok built
  obtain ⟨statements, -, folded⟩ := Draft.addLines_eq_ok taken
  have follows := (Draft.follows_empty defaultState).foldlM folded
  rw [follows.states]
  exact (Statement.groupedBy_statesOf defaultState _).distinct

/-- The states of a template group the rules that its lines are assembled to. -/
theorem groupsRules {judge : PatternJudge} {engine : Engine} {defaultState text : Text}
    {metadata : Option Metadata} {template : Template}
    (built : buildWith (Statement.assembleWith judge engine) defaultState metadata text =
      .ok template) :
    ∃ statements,
      (Text.lines text).mapM (Statement.assembleWith judge engine) = .ok statements ∧
        Statement.GroupedBy defaultState statements template.states := by
  obtain ⟨draft, taken, rfl⟩ := buildWith_eq_ok built
  obtain ⟨statements, assembled, folded⟩ := Draft.addLines_eq_ok taken
  have follows := (Draft.follows_empty defaultState).foldlM folded
  refine ⟨statements, assembled, ?_⟩
  rw [follows.states, List.nil_append]
  exact Statement.groupedBy_statesOf defaultState statements

/-- A state that is named again takes further rules, also the one that was not named at
first. -/
theorem groupsRules_reopened :
    buildWith (Statement.assembleWith Pattern.judge (expandWith Pattern.judge)) startState none
        "top 1\nPeers\n\npeer 2\nStart \nend 3".toList =
      .ok ⟨none, [], [⟨startState, ["  ^top 1".toList, "  ^end 3".toList]⟩,
        ⟨"Peers".toList, ["  ^peer 2".toList]⟩]⟩ ∧
    ∃ statements,
      (Text.lines "top 1\nPeers\n\npeer 2\nStart \nend 3".toList).mapM
          (Statement.assembleWith Pattern.judge (expandWith Pattern.judge)) = .ok statements ∧
        Statement.GroupedBy startState statements
          [⟨startState, ["  ^top 1".toList, "  ^end 3".toList]⟩,
            ⟨"Peers".toList, ["  ^peer 2".toList]⟩] :=
  have built : buildWith (Statement.assembleWith Pattern.judge (expandWith Pattern.judge))
        startState none "top 1\nPeers\n\npeer 2\nStart \nend 3".toList =
      .ok ⟨none, [], [⟨startState, ["  ^top 1".toList, "  ^end 3".toList]⟩,
        ⟨"Peers".toList, ["  ^peer 2".toList]⟩]⟩ :=
    eq_ok_of_toOption (by decide +kernel)
  ⟨built, groupsRules built⟩

end Template

end LineTemplate
