import LineTemplate.Proofs.BuiltTemplates
import LineTemplate.Proofs.Faults

/-!
Contract: what is built of the text of a template's states.

Owns:
- the statements that the lines of states stand for, and that these group to the states;
- what the lines of names and of finished rules are made into when they are read again;
- `Template.statesText_rebuilt`: the states are built again exactly if no rule calls a
  keyword.

Does not own: what becomes of a single rule that calls a keyword.
-/

namespace LineTemplate

theorem map_eq_self_iff {α : Type} {image : α → α} {values : List α} :
    values.map image = values ↔ ∀ value ∈ values, image value = value := by
  have each := List.map_inj_left (l := values) (f := image) (g := id)
  rwa [List.map_id] at each

/-- The statements that the lines of a state stand for. -/
def State.asStatements (state : State) : List Statement :=
  ⟨.blank, [], []⟩ :: ⟨.stateName, state.name, []⟩ ::
    state.statements.map fun rule => ⟨.rule, rule, []⟩

/-! ### Grouped statements -/

namespace Statement

/-- Rules in a row use the current name, once each. -/
theorem usedNames_rules (current : Text) (rules : List Text) (more : List Statement) :
    usedNames current ((rules.map fun rule => ⟨.rule, rule, []⟩) ++ more) =
      List.replicate rules.length current ++ usedNames current more := by
  induction rules with
  | nil => rfl
  | cons rule rules inductionHypothesis =>
      rw [List.map_cons, List.cons_append, usedNames]
      dsimp only
      rw [inductionHypothesis, List.length_cons, List.replicate_succ, List.cons_append]

/-- Rules in a row are all under the current name. -/
theorem rulesUnder_rules (name current : Text) (rules : List Text) (more : List Statement) :
    rulesUnder name current ((rules.map fun rule => ⟨.rule, rule, []⟩) ++ more) =
      (if current = name then rules else []) ++ rulesUnder name current more := by
  induction rules with
  | nil => simp
  | cons rule rules inductionHypothesis =>
      rw [List.map_cons, List.cons_append, rulesUnder]
      dsimp only
      rw [inductionHypothesis]
      by_cases same : current = name
      · simp [same]
      · simp [same]

variable {state : State} {states : List State}

theorem usedNames_asStatements (trimmed : Text.trim state.name = state.name) (current : Text)
    (more : List Statement) :
    usedNames current (state.asStatements ++ more) =
      List.replicate (state.statements.length + 1) state.name ++
        usedNames state.name more := by
  have named : stateName ⟨.stateName, state.name, []⟩ = state.name := trimmed
  rw [State.asStatements, List.cons_append, List.cons_append, usedNames, usedNames]
  dsimp only
  rw [named, usedNames_rules, List.replicate_succ, List.cons_append]

theorem rulesUnder_asStatements (trimmed : Text.trim state.name = state.name)
    (name current : Text) (more : List Statement) :
    rulesUnder name current (state.asStatements ++ more) =
      (if state.name = name then state.statements else []) ++
        rulesUnder name state.name more := by
  have named : stateName ⟨.stateName, state.name, []⟩ = state.name := trimmed
  rw [State.asStatements, List.cons_append, List.cons_append, rulesUnder, rulesUnder]
  dsimp only
  rw [named, rulesUnder_rules]

/-- The statements of states use the names of the states, whatever name is current. -/
theorem usedNames_flatMap (trimmed : ∀ state ∈ states, Text.trim state.name = state.name)
    (current : Text) :
    usedNames current (states.flatMap State.asStatements) =
      states.flatMap fun state => List.replicate (state.statements.length + 1) state.name := by
  induction states generalizing current with
  | nil => rfl
  | cons state states inductionHypothesis =>
      obtain ⟨first, others⟩ := List.forall_mem_cons.mp trimmed
      rw [List.flatMap_cons, usedNames_asStatements first, inductionHypothesis others,
        List.flatMap_cons]

theorem rulesUnder_flatMap (trimmed : ∀ state ∈ states, Text.trim state.name = state.name)
    (name current : Text) :
    rulesUnder name current (states.flatMap State.asStatements) =
      states.flatMap fun state => if state.name = name then state.statements else [] := by
  induction states generalizing current with
  | nil => rfl
  | cons state states inductionHypothesis =>
      obtain ⟨first, others⟩ := List.forall_mem_cons.mp trimmed
      rw [List.flatMap_cons, rulesUnder_asStatements first, inductionHypothesis others,
        List.flatMap_cons]

/-- Names that are repeated in place are listed once each. -/
theorem eraseDups_flatMap_replicate (distinct : (states.map State.name).Nodup) :
    (states.flatMap fun state =>
      List.replicate (state.statements.length + 1) state.name).eraseDups =
        states.map State.name := by
  induction states with
  | nil => simp
  | cons state states inductionHypothesis =>
      obtain ⟨absent, others⟩ := List.nodup_cons.mp distinct
      have kept : ∀ name ∈ states.flatMap (fun state =>
          List.replicate (state.statements.length + 1) state.name),
          (!name == state.name) = true := by
        intro name among
        obtain ⟨other, member, repeated⟩ := List.mem_flatMap.mp among
        rw [List.eq_of_mem_replicate repeated]
        have different : other.name ≠ state.name := by
          intro same
          exact absent (same ▸ List.mem_map_of_mem member)
        simpa using different
      have own : (!state.name == state.name) = false := by simp
      rw [List.flatMap_cons, List.replicate_succ, List.cons_append, List.eraseDups_cons,
        List.filter_append, List.filter_replicate, List.filter_eq_self.mpr kept, own,
        if_neg Bool.false_ne_true, List.nil_append, inductionHypothesis others, List.map_cons]

/-- Under distinct names, each has the rules of its own state. -/
theorem flatMap_statements_of_mem (distinct : (states.map State.name).Nodup)
    (among : state ∈ states) :
    (states.flatMap fun other => if other.name = state.name then other.statements else []) =
      state.statements := by
  induction states with
  | nil => cases among
  | cons first states inductionHypothesis =>
      obtain ⟨absent, others⟩ := List.nodup_cons.mp distinct
      rw [List.flatMap_cons]
      rcases List.mem_cons.mp among with rfl | later
      · have none : (states.flatMap fun other =>
            if other.name = state.name then other.statements else []) = [] := by
          rw [List.flatMap_eq_nil_iff]
          intro other member
          apply if_neg
          intro same
          exact absent (same ▸ List.mem_map_of_mem member)
        rw [if_pos rfl, none, List.append_nil]
      · have different : first.name ≠ state.name := by
          intro same
          exact absent (same ▸ List.mem_map_of_mem later)
        rw [if_neg different, inductionHypothesis others later, List.nil_append]

/-- The statements of states with distinct names group to these states. -/
theorem statesOf_flatMap_asStatements (defaultState : Text)
    (trimmed : ∀ state ∈ states, Text.trim state.name = state.name)
    (distinct : (states.map State.name).Nodup) :
    statesOf defaultState (states.flatMap State.asStatements) = states := by
  rw [statesOf, usedNames_flatMap trimmed, eraseDups_flatMap_replicate distinct, List.map_map,
    map_eq_self_iff]
  intro state among
  rw [Function.comp, rulesUnder_flatMap trimmed, flatMap_statements_of_mem distinct among]

end Statement

/-! ### Lines that are read again -/

namespace Text

theorem trim_of_solid {text : Text} (solid : ∀ c ∈ text, isBlank c = false) : trim text = text := by
  have kept : ∀ {text : Text}, (∀ c ∈ text, isBlank c = false) → text.dropWhile isBlank = text := by
    intro text solid
    cases text with
    | nil => rfl
    | cons first rest => exact List.dropWhile_cons_of_neg (by simp [solid first])
  have reversed : ∀ c ∈ text.reverse, isBlank c = false := by simpa using solid
  rw [trim, trimStart, kept solid, trimEnd, kept reversed, List.reverse_reverse]

/-- Letters, digits and underscores make a name, if there are any. -/
theorem isName_of_isNameChar {name : Text} (filled : name ≠ [])
    (belongs : ∀ c ∈ name, isNameChar c = true) : IsName name := by
  have checked : ∀ code < 128, (!isNameChar (Char.ofNat code) ||
      (isLowerWord (fold (Char.ofNat code)) && !isBlank (Char.ofNat code))) = true := by
    decide +kernel
  have each : ∀ c ∈ name, isLowerWord (fold c) = true ∧ isBlank c = false := by
    intro c member
    have either := forall_ascii
      (fun c => !isNameChar c || (isLowerWord (fold c) && !isBlank c)) checked
      (toNat_lt_of_isNameChar (belongs c member))
    simpa [belongs c member] using either
  constructor
  · rw [isBareWord, Bool.and_eq_true, List.all_eq_true]
    exact ⟨by simpa using filled, fun c member => (each c member).1⟩
  · exact trim_of_solid fun c member => (each c member).2

theorem IsName.trimEnd_eq {name : Text} (isName : IsName name) : trimEnd name = name := by
  have trimmed := isName.trimmed
  rw [trim] at trimmed
  rw [← trimmed, trimEnd_trimEnd]

end Text

namespace Line

/-- A word on its own is all content. -/
theorem parse_of_isName {name : Text} (isName : Text.IsName name) :
    parse name = ⟨name, name, [], false⟩ := by
  have solid : ' ' ∉ name := isName.not_mem (by decide)
  have single : Text.splitAtLast? separator name = none := by
    rw [Text.splitAtLast?_eq_none_iff separator_ne_nil]
    intro occurs
    exact solid (occurs.subset (by decide))
  have unmarked : dropMarker? name = none := by
    apply if_neg
    intro same
    have space : ' ' ∈ (name.take marker.length).map Text.fold := by
      rw [same]
      decide
    obtain ⟨c, inside, folded⟩ := List.mem_map.mp space
    have other : Text.isLowerWord (Text.fold c) = false := by
      rw [folded]
      decide
    exact isName.not_mem other (List.mem_of_mem_take inside)
  have whole : splitDirective name = (name, []) := by rw [splitDirective, single]
  rw [parse, whole]
  dsimp only
  rw [unmarked]

end Line

namespace Statement

variable {judge : PatternJudge} {engine : Engine}

theorem assembleWith_nil : assembleWith judge engine [] = .ok ⟨.blank, [], []⟩ := rfl

/-- A word on its own names a state. -/
theorem assembleWith_of_isName {name : Text} (isName : Text.IsName name) :
    assembleWith judge engine name = .ok ⟨.stateName, name, []⟩ := by
  have kind : (Line.parse name).kind = .bareWord := by
    have solid : Text.isAllBlank name ≠ true := by
      intro blank
      exact isName.nonempty (Text.eq_nil_of_isAllBlank blank isName.trimEnd_eq)
    rw [Line.parse_of_isName isName, Line.kind, Line.isBlank, if_neg solid, isName.trimEnd_eq,
      if_pos isName.word]
  rw [assembleWith_eq_ok_iff, ofLine, kind, Line.text_parse]

/-- A line that begins as finished rules do gives a rule, if anything. -/
theorem kind_of_ruleStart {rest : Text} {statement : Statement}
    (assembled : assembleWith judge engine (Line.ruleStart ++ rest) = .ok statement) :
    statement.kind = .rule := by
  obtain ⟨notBlank, notWord⟩ := Line.kind_ruleStart rest
  have line := assembleWith_eq_ok_iff.mp assembled
  unfold ofLine at line
  split at line
  · rename_i kind
    exact absurd kind notBlank
  · rename_i kind
    exact absurd kind notWord
  · split at line
    · obtain ⟨expansion, -, rfl⟩ := map_eq_ok_iff.mp line
      rfl
    · cases line
      rfl

/-- A statement without what it captures. -/
def bare (statement : Statement) : Statement := { statement with captured := [] }

theorem usedNames_map_bare (current : Text) (statements : List Statement) :
    usedNames current (statements.map bare) = usedNames current statements := by
  induction statements generalizing current with
  | nil => rfl
  | cons statement more inductionHypothesis =>
      rw [List.map_cons, usedNames, usedNames]
      cases kind : statement.kind with
      | blank => simpa [bare, kind] using inductionHypothesis current
      | stateName => simpa [bare, kind, stateName] using inductionHypothesis statement.stateName
      | rule => simpa [bare, kind] using inductionHypothesis current

theorem rulesUnder_map_bare (name current : Text) (statements : List Statement) :
    rulesUnder name current (statements.map bare) = rulesUnder name current statements := by
  induction statements generalizing current with
  | nil => rfl
  | cons statement more inductionHypothesis =>
      rw [List.map_cons, rulesUnder, rulesUnder]
      cases kind : statement.kind with
      | blank => simpa [bare, kind] using inductionHypothesis current
      | stateName => simpa [bare, kind, stateName] using inductionHypothesis statement.stateName
      | rule => simp [bare, kind, inductionHypothesis current]

/-- What is captured makes no difference to the states. -/
theorem statesOf_map_bare (defaultState : Text) (statements : List Statement) :
    statesOf defaultState (statements.map bare) = statesOf defaultState statements := by
  simp only [statesOf, usedNames_map_bare, rulesUnder_map_bare]

/-- What a line is made into when it is read again, its captures aside. A line that fails
counts as the rule that it was. -/
def reread (judge : PatternJudge) (line : Text) : Statement :=
  match assembleBy judge line with
  | .ok statement => statement.bare
  | .error _ => ⟨.rule, line, []⟩

variable {judge : PatternJudge}

theorem reread_of_assembleBy {line : Text} {statement : Statement}
    (assembled : assembleBy judge line = .ok statement) :
    reread judge line = statement.bare := by
  rw [reread, assembled]

theorem map_bare_of_forall₂ {lines : List Text} {statements : List Statement}
    (assembled : List.Forall₂ (fun line statement => assembleBy judge line = .ok statement) lines
      statements) :
    statements.map bare = lines.map (reread judge) := by
  induction assembled with
  | nil => rfl
  | cons first _ inductionHypothesis =>
      rw [List.map_cons, List.map_cons, inductionHypothesis, reread_of_assembleBy first]

/-- A line that begins as finished rules do is a rule when it is read again. -/
theorem reread_ruleStart (judge : PatternJudge) (rest : Text) :
    reread judge (Line.ruleStart ++ rest) =
      ⟨.rule, (reread judge (Line.ruleStart ++ rest)).text, []⟩ := by
  cases assembled : assembleBy judge (Line.ruleStart ++ rest) with
  | error cause =>
      rw [reread, assembled]
  | ok statement =>
      have kind := kind_of_ruleStart assembled
      rw [reread_of_assembleBy assembled, bare, kind]

end Statement

/-! ### States that are read again -/

namespace State

/-- A state with its rules read again. -/
def reread (judge : PatternJudge) (state : State) : State :=
  ⟨state.name, state.statements.map fun rule => (Statement.reread judge rule).text⟩

variable {judge : PatternJudge}

theorem reread_eq_self_iff {state : State} :
    state.reread judge = state ↔
      ∀ rule ∈ state.statements, (Statement.reread judge rule).text = rule := by
  rw [← map_eq_self_iff, reread]
  constructor
  · exact congrArg State.statements
  · intro same
    rw [same]

/-- The lines of a state are read again as those of a state of the same name. -/
theorem map_reread_lines {state : State} (isName : Text.IsName state.name)
    (rules : ∀ rule ∈ state.statements, Line.ruleStart <+: rule) :
    state.lines.map (Statement.reread judge) = (state.reread judge).asStatements := by
  have each : state.statements.map (Statement.reread judge) =
      state.statements.map fun rule => ⟨.rule, (Statement.reread judge rule).text, []⟩ := by
    apply List.map_congr_left
    intro rule among
    obtain ⟨rest, rfl⟩ := rules rule among
    exact Statement.reread_ruleStart judge rest
  have blank : Statement.reread judge [] = ⟨.blank, [], []⟩ :=
    Statement.reread_of_assembleBy Statement.assembleWith_nil
  have named : Statement.reread judge state.name = ⟨.stateName, state.name, []⟩ :=
    Statement.reread_of_assembleBy (Statement.assembleWith_of_isName isName)
  rw [lines, List.map_cons, List.map_cons, blank, named, each, asStatements, reread, List.map_map]
  rfl

end State

namespace Template

open Statement

/-- A template whose states can be read again: they have distinct names, which are words, and
rules that begin as finished ones do, each a line of its own. -/
structure IsRereadable (template : Template) : Prop where
  distinct : (template.states.map State.name).Nodup
  names : ∀ state ∈ template.states, Text.IsName state.name
  rules : ∀ state ∈ template.states, ∀ rule ∈ state.statements, Line.ruleStart <+: rule
  areLines : ∀ state ∈ template.states, ∀ rule ∈ state.statements, Text.IsLine rule
  filled : ∃ state ∈ template.states, state.statements ≠ []

variable {judge : PatternJudge} {template other : Template} {defaultState text : Text}
  {metadata : Option Metadata}

theorem IsSound.isRereadable (sound : template.IsSound defaultState text)
    (isName : Text.IsName defaultState) (noReturns : '\r' ∉ text) : template.IsRereadable := by
  refine ⟨sound.distinct, ?_, sound.rules, ?_, sound.filled⟩
  · intro state among
    rcases sound.names state among with same | named
    · rwa [same]
    · exact named
  · intro state among rule inside
    refine ⟨sound.unbroken state among rule inside, ?_⟩
    intro last
    exact sound.noReturns noReturns state among rule inside (List.mem_of_getLast? last)

namespace IsRereadable

theorem lines_statesText (rereadable : template.IsRereadable) :
    Text.lines template.statesText = template.states.flatMap State.lines := by
  have areLines : ∀ line ∈ template.states.flatMap State.lines, Text.IsLine line := by
    intro line among
    obtain ⟨state, member, inside⟩ := List.mem_flatMap.mp among
    rcases List.mem_cons.mp inside with rfl | behind
    · decide
    rcases List.mem_cons.mp behind with rfl | isRule
    · have isName := rereadable.names state member
      refine ⟨isName.not_mem (by decide), ?_⟩
      intro last
      exact isName.not_mem (c := '\r') (by decide) (List.mem_of_getLast? last)
    · exact rereadable.areLines state member line isRule
  have whole := Text.lines_flatMap_endLine areLines []
  rw [List.append_nil] at whole
  rw [statesText, whole, Text.lines, List.append_nil]

/-- Whatever is built of the text of states has the states with their rules read again. -/
theorem states_rebuilt (rereadable : template.IsRereadable)
    (rebuilt : buildBy judge defaultState metadata template.statesText = .ok other) :
    other.states = template.states.map (State.reread judge) := by
  obtain ⟨statements, places, -, states, -⟩ := exists_statements_of_buildBy rebuilt
  rw [rereadable.lines_statesText] at places
  have each : (template.states.flatMap State.lines).map (reread judge) =
      (template.states.map (State.reread judge)).flatMap State.asStatements := by
    rw [List.map_flatMap, List.flatMap_map]
    apply List.flatMap_congr
    intro state among
    exact State.map_reread_lines (rereadable.names state among) (rereadable.rules state among)
  have trimmed : ∀ state ∈ template.states.map (State.reread judge),
      Text.trim state.name = state.name := by
    intro state among
    obtain ⟨known, member, rfl⟩ := List.mem_map.mp among
    exact (rereadable.names known member).trimmed
  have distinct : ((template.states.map (State.reread judge)).map State.name).Nodup := by
    rw [List.map_map]
    exact rereadable.distinct
  calc other.states
      = statesOf defaultState (statements.map bare) := by rw [states, statesOf_map_bare]
    _ = statesOf defaultState
          ((template.states.map (State.reread judge)).flatMap State.asStatements) := by
        rw [map_bare_of_forall₂ places, each]
    _ = template.states.map (State.reread judge) :=
        statesOf_flatMap_asStatements defaultState trimmed distinct

end IsRereadable

theorem mem_lines_of_rule {state : State} {rule : Text} (member : state ∈ template.states)
    (inside : rule ∈ state.statements) : rule ∈ template.states.flatMap State.lines :=
  List.mem_flatMap.mpr ⟨state, member, by simp [State.lines, inside]⟩

/-- Lines that capture nothing are built to a template without variables, if one is a rule. -/
theorem exists_buildBy_of_uncaptured
    (assembled : ∀ line ∈ Text.lines text, ∃ statement,
      assembleBy judge line = .ok statement ∧ statement.captured = [])
    (hasRule : HasRule (assembleBy judge) (Text.lines text)) (defaultState : Text)
    (metadata : Option Metadata) :
    ∃ template, buildBy judge defaultState metadata text = .ok template ∧
      template.metadata = metadata ∧ template.declared = [] := by
  have wellFormed := wellFormed_assembleBy judge
  have faultless : Faultless (assembleBy judge) (Text.lines text) := by
    intro before line after split faulty
    have among : line ∈ Text.lines text := by simp [split]
    obtain ⟨statement, made, none⟩ := assembled line among
    rcases faulty with ⟨cause, failed⟩ | ⟨other, again, single, captured, -⟩
    · rw [made] at failed
      cases failed
    · rw [made] at again
      cases again
      rw [none] at captured
      cases captured
  have free := (firstFault?_eq_none_iff wellFormed).mpr faultless
  rcases buildWith_of_faultless wellFormed defaultState metadata free with
    ⟨-, template, built⟩ | ⟨noRule, -⟩
  · obtain ⟨statements, places, same, -, declared⟩ := exists_statements_of_buildBy built
    have nothing : allCaptured statements = [] := by
      apply List.flatMap_eq_nil_iff.mpr
      intro statement member
      obtain ⟨line, among, made⟩ := (mem_iff_of_forall₂ places).mp member
      obtain ⟨other, again, none⟩ := assembled line among
      rw [made] at again
      cases again
      exact none
    refine ⟨template, built, same, ?_⟩
    rw [declared, nothing]
    rfl
  · exact absurd hasRule noRule

/-- A rule of the template calls a keyword before its directive. -/
def CallsKeyword (template : Template) : Prop :=
  ∃ state ∈ template.states, ∃ rule ∈ state.statements,
    hasKeywordCall (Line.parse rule).content = true

instance (template : Template) : Decidable template.CallsKeyword :=
  inferInstanceAs (Decidable (∃ state ∈ template.states, ∃ rule ∈ state.statements,
    hasKeywordCall (Line.parse rule).content = true))

theorem assembleBy_of_not_callsKeyword (judge : PatternJudge)
    (rereadable : template.IsRereadable) (quiet : ¬template.CallsKeyword) {state : State}
    (among : state ∈ template.states) {rule : Text} (inside : rule ∈ state.statements) :
    assembleBy judge rule = .ok ⟨.rule, rule, []⟩ := by
  obtain ⟨rest, rfl⟩ := rereadable.rules state among rule inside
  apply assembleWith_ruleStart
  by_contra calls
  exact quiet ⟨state, among, _, inside, by simpa using calls⟩

/-- Without calls, the states are built again as they are. -/
theorem IsRereadable.buildBy_statesText (rereadable : template.IsRereadable)
    (quiet : ¬template.CallsKeyword) (judge : PatternJudge) (defaultState : Text)
    (metadata : Option Metadata) :
    buildBy judge defaultState metadata template.statesText =
      .ok ⟨metadata, [], template.states⟩ := by
  have unchanged : ∀ state ∈ template.states, ∀ rule ∈ state.statements,
      assembleBy judge rule = .ok ⟨.rule, rule, []⟩ := fun _ member _ inside =>
    assembleBy_of_not_callsKeyword judge rereadable quiet member inside
  have lines := rereadable.lines_statesText
  have assembled : ∀ line ∈ Text.lines template.statesText, ∃ statement,
      assembleBy judge line = .ok statement ∧ statement.captured = [] := by
    rw [lines]
    intro line among
    obtain ⟨state, member, inside⟩ := List.mem_flatMap.mp among
    rcases List.mem_cons.mp inside with rfl | behind
    · exact ⟨_, assembleWith_nil, rfl⟩
    rcases List.mem_cons.mp behind with rfl | isRule
    · exact ⟨_, assembleWith_of_isName (rereadable.names state member), rfl⟩
    · exact ⟨_, unchanged state member line isRule, rfl⟩
  have hasRule : HasRule (assembleBy judge) (Text.lines template.statesText) := by
    obtain ⟨state, member, filled⟩ := rereadable.filled
    obtain ⟨rule, more, given⟩ := List.exists_cons_of_ne_nil filled
    have inside : rule ∈ state.statements := by simp [given]
    refine ⟨rule, ?_, _, unchanged state member rule inside, rfl⟩
    rw [lines]
    exact mem_lines_of_rule member inside
  obtain ⟨other, built, same, declared⟩ :=
    exists_buildBy_of_uncaptured assembled hasRule defaultState metadata
  have kept : template.states.map (State.reread judge) = template.states := by
    rw [map_eq_self_iff]
    intro state member
    rw [State.reread_eq_self_iff]
    intro rule inside
    rw [reread_of_assembleBy (unchanged state member rule inside)]
    rfl
  have states := rereadable.states_rebuilt built
  rw [kept] at states
  rw [built, ← same, ← declared, ← states]

/-- With calls, what is built has other states: the rule that calls is not what it is made
into. -/
theorem IsRereadable.states_ne_of_callsKeyword (rereadable : template.IsRereadable)
    (calls : template.CallsKeyword)
    (rebuilt : buildBy judge defaultState metadata template.statesText = .ok other) :
    other.states ≠ template.states := by
  intro same
  obtain ⟨state, member, rule, inside, called⟩ := calls
  have kept : ∀ state ∈ template.states, state.reread judge = state := by
    rw [← map_eq_self_iff, ← rereadable.states_rebuilt rebuilt, same]
  have fixed : (reread judge rule).text = rule :=
    State.reread_eq_self_iff.mp (kept state member) rule inside
  obtain ⟨statements, places, -⟩ := exists_statements_of_buildBy rebuilt
  have isLine : rule ∈ Text.lines template.statesText := by
    rw [rereadable.lines_statesText]
    exact mem_lines_of_rule member inside
  obtain ⟨statement, again⟩ := exists_statement_of_forall₂ places isLine
  obtain ⟨rest, rfl⟩ := rereadable.rules state member rule inside
  rw [reread_of_assembleBy again] at fixed
  exact not_fixed_of_hasKeywordCall called again fixed

/-- The text of the states of a template is built to the same states, without variables,
unless a rule calls a keyword before its directive; then it never is. The judge may be
another one the second time. -/
theorem statesText_rebuilt (filled : defaultState ≠ [])
    (word : ∀ c ∈ defaultState, Text.isNameChar c = true) (noReturns : '\r' ∉ text)
    (built : buildBy judge defaultState metadata text = .ok template) :
    (¬template.CallsKeyword → ∀ (later : PatternJudge) (otherState : Text)
        (otherMetadata : Option Metadata),
        buildBy later otherState otherMetadata template.statesText =
          .ok ⟨otherMetadata, [], template.states⟩) ∧
      (template.CallsKeyword → ∀ (later : PatternJudge) (otherState : Text)
        (otherMetadata : Option Metadata) (other : Template),
        buildBy later otherState otherMetadata template.statesText = .ok other →
          other.states ≠ template.states) := by
  have isName := Text.isName_of_isNameChar filled word
  have rereadable := (sound_of_buildBy built).isRereadable isName noReturns
  constructor
  · intro quiet later otherState otherMetadata
    exact rereadable.buildBy_statesText quiet later otherState otherMetadata
  · intro calls later otherState otherMetadata other rebuilt
    exact rereadable.states_ne_of_callsKeyword calls rebuilt

/-- A state that is named again, and one without rules, are built again as they are; a lone
call is not. -/
theorem statesText_rebuilt_reopened :
    ((startState ≠ [] ∧ (∀ c ∈ startState, Text.isNameChar c = true) ∧
        '\r' ∉ "vlan digits(var_id)\nPeers\nStart \nend -> Peers".toList ∧
        '\r' ∉ "digits()".toList) ∧
      (buildBy Pattern.judge startState none
            "vlan digits(var_id)\nPeers\nStart \nend -> Peers".toList =
          .ok ⟨none, [⟨"id".toList, "\\d+".toList, []⟩],
            [⟨startState, ["  ^vlan $\x7bid\x7d".toList, "  ^end -> Peers".toList]⟩,
              ⟨"Peers".toList, []⟩]⟩ ∧
        buildBy Pattern.judge "Top".toList none
            "\nStart\n  ^vlan $\x7bid\x7d\n  ^end -> Peers\n\nPeers\n".toList =
          .ok ⟨none, [],
            [⟨startState, ["  ^vlan $\x7bid\x7d".toList, "  ^end -> Peers".toList]⟩,
              ⟨"Peers".toList, []⟩]⟩) ∧
      buildBy Pattern.judge startState none "digits()".toList =
          .ok ⟨none, [], [⟨startState, ["  ^digits()".toList]⟩]⟩ ∧
        ∀ other,
          buildBy Pattern.judge startState none "\nStart\n  ^digits()\n".toList = .ok other →
            other.states ≠ [⟨startState, ["  ^digits()".toList]⟩]) := by
  have filled : startState ≠ [] := by decide
  have word : ∀ c ∈ startState, Text.isNameChar c = true := List.all_eq_true.mp (by decide)
  have solid : '\r' ∉ "vlan digits(var_id)\nPeers\nStart \nend -> Peers".toList := by decide
  have solidCall : '\r' ∉ "digits()".toList := by decide
  have built : buildBy Pattern.judge startState none
        "vlan digits(var_id)\nPeers\nStart \nend -> Peers".toList =
      .ok ⟨none, [⟨"id".toList, "\\d+".toList, []⟩],
        [⟨startState, ["  ^vlan $\x7bid\x7d".toList, "  ^end -> Peers".toList]⟩,
          ⟨"Peers".toList, []⟩]⟩ := eq_ok_of_toOption (by decide +kernel)
  have builtCall : buildBy Pattern.judge startState none "digits()".toList =
      .ok ⟨none, [], [⟨startState, ["  ^digits()".toList]⟩]⟩ :=
    eq_ok_of_toOption (by decide +kernel)
  refine ⟨⟨filled, word, solid, solidCall⟩, ⟨built, ?_⟩, builtCall, ?_⟩
  · exact (statesText_rebuilt filled word solid built).1 (by decide +kernel) Pattern.judge
      "Top".toList none
  · exact (statesText_rebuilt filled word solidCall builtCall).2 (by decide +kernel) Pattern.judge
      startState none

end Template

end LineTemplate
