import LineTemplate.Proofs.DeclaredVariables
import LineTemplate.Proofs.LineBreaks
import LineTemplate.Proofs.TextLines

/-!
Contract: what the parts of a built template look like.

Owns:
- `Text.IsName`, the words that lines name states by;
- the statements that a template is built of, and what each is made of;
- `Template.IsSound`, what is known of the names, rules and variables of a template, and
  `Template.sound_of_buildBy`.

Does not own: what is done with the text of a template.
-/

namespace LineTemplate

/-! ### Names of states -/

/-- A word on its own, without white space around it. -/
structure Text.IsName (name : Text) : Prop where
  word : isBareWord name = true
  trimmed : trim name = name

namespace Text

theorem IsName.nonempty {name : Text} (isName : IsName name) : name ≠ [] := by
  rintro rfl
  cases isName.word

/-- A name holds only characters whose folding belongs to words. -/
theorem IsName.not_mem {name : Text} (isName : IsName name) {c : Char}
    (other : isLowerWord (fold c) = false) : c ∉ name := by
  intro member
  have word := isName.word
  rw [isBareWord, Bool.and_eq_true, List.all_eq_true] at word
  rw [word.2 c member] at other
  cases other

/-- What is left of a text that is not white space only begins with another character, and
stands at the end of the text without the white space behind it. -/
theorem exists_trim {text : Text} (solid : trimEnd text ≠ []) :
    ∃ blanks first rest, isBlank first = false ∧ trim text = first :: rest ∧
      trimEnd text = blanks ++ first :: rest := by
  have split := List.takeWhile_append_dropWhile (p := isBlank) (l := text)
  have begins := List.head?_dropWhile_not isBlank text
  cases started : text.dropWhile isBlank with
  | nil =>
      rw [List.dropWhile_eq_nil_iff] at started
      refine absurd ?_ solid
      rw [trimEnd, List.reverse_eq_nil_iff, List.dropWhile_eq_nil_iff]
      exact fun c member => started c (List.mem_reverse.mp member)
  | cons first rest =>
      rw [started] at split begins
      have blank : isBlank first = false := begins
      refine ⟨text.takeWhile isBlank, first, trimEnd rest, blank, ?_, ?_⟩
      · rw [trim, trimStart, started]
        exact trimEnd_append_cons [] rest blank
      · conv_lhs => rw [← split]
        exact trimEnd_append_cons _ rest blank

/-- A line that is a word but for white space around it names the state of the word. -/
theorem isName_trim {raw : Text} (word : isBareWord (trimEnd raw) = true) :
    IsName (trim raw) := by
  have solid : trimEnd raw ≠ [] := by
    intro nothing
    rw [nothing] at word
    cases word
  obtain ⟨blanks, first, rest, blank, trimmed, whole⟩ := exists_trim solid
  constructor
  · rw [trimmed]
    rw [whole, isBareWord, List.all_append, Bool.and_eq_true, Bool.and_eq_true] at word
    rw [isBareWord]
    exact word.2.2
  · have kept : trimEnd (first :: rest) = first :: rest := by
      rw [← trimmed, trim, trimEnd_trimEnd]
    have started : trimStart (first :: rest) = first :: rest :=
      List.dropWhile_cons_of_neg (by simp [blank])
    rw [trimmed, trim, started, kept]

end Text

/-! ### Statements -/

namespace ExpandedPart

/-- What a part captures has a proper name. -/
def IsNamed (part : ExpandedPart) : Prop :=
  ∀ captured ∈ part.captured?, Text.isVariableName captured.name = true

theorem isNamed_literal (text : Text) : (literal text).IsNamed := by
  intro captured among
  cases among

theorem isNamed_of_ofCall {call : KeywordCall} {part : ExpandedPart}
    (expanded : ofCall call = .ok part) : part.IsNamed := by
  obtain ⟨known, read, ⟨-, rfl⟩ | ⟨-, rfl⟩ | ⟨-, captured, named, -, rfl⟩⟩ :=
    ofCall_eq_ok expanded
  · intro captured among
    cases among
  · intro captured among
    cases among
  · intro other among
    cases among
    exact CallArguments.isVariableName_of_read read captured.name named

end ExpandedPart

namespace Statement

/-- What is captured has a proper name. -/
theorem isVariableName_of_assembleWith {judge : PatternJudge} {raw : Text} {statement : Statement}
    (assembled : assembleWith judge (expandWith judge) raw = .ok statement) :
    ∀ captured ∈ statement.captured, Text.isVariableName captured.name = true := by
  rcases assembleWith_eq_ok assembled with ⟨-, rfl | rfl | ⟨rfl, -⟩⟩ | ⟨expansion, -, expanded, rfl⟩
  · simp
  · simp
  · simp
  · obtain ⟨parts, found, -, -, same⟩ := exists_parts_of_expandWith expanded
    have each : ∀ part ∈ parts, part.IsNamed :=
      AnnotatedText.forall_parts_of_expandFrom ExpandedPart.isNamed_literal
        (fun _ _ _ made => ExpandedPart.isNamed_of_ofCall made) found
    intro captured among
    change captured ∈ expansion.captured at among
    rw [same] at among
    obtain ⟨part, member, bound⟩ := List.mem_filterMap.mp among
    exact each part member captured bound

/-- The text of a rule begins as finished rules do. -/
theorem ruleStart_begins {judge : PatternJudge} {engine : Engine} {raw : Text}
    {statement : Statement} (assembled : assembleWith judge engine raw = .ok statement)
    (isRule : statement.kind = .rule) : Line.ruleStart <+: statement.text := by
  rcases assembleWith_eq_ok assembled with
    ⟨-, rfl | rfl | ⟨rfl, begins⟩⟩ | ⟨expansion, -, -, rfl⟩
  · cases isRule
  · cases isRule
  · exact begins
  · obtain ⟨rest, -, whole, -⟩ :=
      exists_content_finish (Line.parse raw) (bodyOf judge (Line.parse raw) expansion)
    exact ⟨_, whole.symm⟩

/-- The name that a line gives a state is a word. -/
theorem isName_stateName {judge : PatternJudge} {engine : Engine} {raw : Text}
    {statement : Statement} (assembled : assembleWith judge engine raw = .ok statement)
    (isName : statement.kind = .stateName) : Text.IsName statement.stateName := by
  have line := assembleWith_eq_ok_iff.mp assembled
  unfold ofLine at line
  split at line
  · cases line
    cases isName
  · rename_i kind
    cases line
    apply Text.isName_trim
    unfold Line.kind at kind
    split at kind
    · cases kind
    · split at kind
      · assumption
      · split at kind
        · cases kind
        · cases kind
  · split at line
    · obtain ⟨expansion, -, rfl⟩ := map_eq_ok_iff.mp line
      cases isName
    · cases line
      cases isName

end Statement

/-! ### Templates -/

namespace Template

open Statement

/-- What is known of a template that a text is built to: the names of its states are words
or the default one, its rules begin as finished ones do and stay on one line each, and its
variables have proper names and patterns without a newline. -/
structure IsSound (defaultState text : Text) (template : Template) : Prop where
  distinct : (template.states.map State.name).Nodup
  names : ∀ state ∈ template.states, state.name = defaultState ∨ Text.IsName state.name
  rules : ∀ state ∈ template.states, ∀ rule ∈ state.statements, Line.ruleStart <+: rule
  unbroken : ∀ state ∈ template.states, ∀ rule ∈ state.statements, '\n' ∉ rule
  noReturns : '\r' ∉ text → ∀ state ∈ template.states, ∀ rule ∈ state.statements, '\r' ∉ rule
  filled : ∃ state ∈ template.states, state.statements ≠ []
  variableNames : ∀ known ∈ template.declared, Text.isVariableName known.name = true
  patterns : ∀ known ∈ template.declared, '\n' ∉ known.pattern

/-- What a template is built of: the statements of its lines. -/
theorem exists_statements_of_buildBy {judge : PatternJudge} {defaultState text : Text}
    {metadata : Option Metadata} {template : Template}
    (built : buildBy judge defaultState metadata text = .ok template) :
    ∃ statements, List.Forall₂ (fun line statement => assembleBy judge line = .ok statement)
        (Text.lines text) statements ∧
      template.metadata = metadata ∧
      template.states = statesOf defaultState statements ∧
      template.declared = declarationsOf (allCaptured statements) := by
  obtain ⟨draft, taken, rfl⟩ := buildWith_eq_ok built
  obtain ⟨statements, assembled, folded⟩ := Draft.addLines_eq_ok taken
  have places := forall₂_of_mapM assembled
  have follows := (Draft.follows_empty defaultState).foldlM folded
  have declared := (Draft.declared_of_addLines (wellFormed_assembleBy judge) taken places).1
  exact ⟨statements, places, rfl, follows.states, declared⟩

theorem exists_filled_of_buildWith {assembler : Assembler} {defaultState text : Text}
    {metadata : Option Metadata} {template : Template}
    (built : buildWith assembler defaultState metadata text = .ok template) :
    ∃ state ∈ template.states, state.statements ≠ [] := by
  unfold buildWith at built
  split at built
  · cases built
  · split at built
    · rename_i draft taken hasRule
      cases built
      rw [Draft.hasRule, List.any_eq_true] at hasRule
      obtain ⟨state, among, filled⟩ := hasRule
      exact ⟨state, among, by simpa using filled⟩
    · cases built

/-- A declared variable has the name and the pattern of one that is captured. -/
theorem exists_captured_of_mem_declarationsOf {captured : List Variable} {known : Variable}
    (among : known ∈ declarationsOf captured) :
    ∃ single ∈ captured, single.name = known.name ∧ single.pattern = known.pattern := by
  obtain ⟨first, found, whole⟩ := Option.map_eq_some_iff.mp (declarationOf?_of_mem among)
  obtain ⟨member, named⟩ := List.mem_filter.mp (List.mem_of_head? found)
  exact ⟨first, member, by simpa using named, by rw [← whole]⟩

variable {judge : PatternJudge} {defaultState text : Text} {metadata : Option Metadata}
  {template : Template}

/-- A state has the default name, or one that a line gives it. -/
theorem name_of_buildBy (built : buildBy judge defaultState metadata text = .ok template) :
    ∀ state ∈ template.states, state.name = defaultState ∨ Text.IsName state.name := by
  obtain ⟨statements, places, -, states, -⟩ := exists_statements_of_buildBy built
  have grouped := groupedBy_statesOf defaultState statements
  rw [← states] at grouped
  intro state among
  have used : state.name ∈ usedNames defaultState statements := by
    rw [← List.mem_eraseDups, ← grouped.names]
    exact List.mem_map_of_mem among
  rcases named_of_mem_usedNames used with ⟨statement, member, isName, same⟩ | ⟨same, -⟩
  · obtain ⟨line, -, assembled⟩ := (mem_iff_of_forall₂ places).mp member
    exact .inr (same ▸ isName_stateName assembled isName)
  · exact .inl same

/-- Every rule is the statement of a line. -/
theorem exists_line_of_rule (built : buildBy judge defaultState metadata text = .ok template) :
    ∀ state ∈ template.states, ∀ rule ∈ state.statements, ∃ line ∈ Text.lines text,
      ∃ statement, assembleBy judge line = .ok statement ∧ statement.kind = .rule ∧
        statement.text = rule := by
  obtain ⟨statements, places, -, states, -⟩ := exists_statements_of_buildBy built
  have grouped := groupedBy_statesOf defaultState statements
  rw [← states] at grouped
  intro state among rule inside
  rw [grouped.rules state among] at inside
  obtain ⟨statement, member, isRule, same⟩ := exists_rule_of_mem_rulesUnder inside
  obtain ⟨line, isLine, assembled⟩ := (mem_iff_of_forall₂ places).mp member
  exact ⟨line, isLine, statement, assembled, isRule, same⟩

/-- Every variable is captured in some line. -/
theorem exists_line_of_declared (built : buildBy judge defaultState metadata text = .ok template) :
    ∀ known ∈ template.declared, ∃ line ∈ Text.lines text, ∃ statement,
      assembleBy judge line = .ok statement ∧ ∃ single ∈ statement.captured,
        single.name = known.name ∧ single.pattern = known.pattern := by
  obtain ⟨statements, places, -, -, declared⟩ := exists_statements_of_buildBy built
  intro known among
  rw [declared] at among
  obtain ⟨single, inside, same⟩ := exists_captured_of_mem_declarationsOf among
  obtain ⟨statement, member, captured⟩ := List.mem_flatMap.mp inside
  obtain ⟨line, isLine, assembled⟩ := (mem_iff_of_forall₂ places).mp member
  exact ⟨line, isLine, statement, assembled, single, captured, same⟩

theorem sound_of_buildBy (built : buildBy judge defaultState metadata text = .ok template) :
    template.IsSound defaultState text := by
  have newline : Text.isBreak '\n' = true := by decide
  have rules := exists_line_of_rule built
  have captures := exists_line_of_declared built
  refine ⟨nodup_names_of_buildWith built, name_of_buildBy built, ?_, ?_, ?_,
    exists_filled_of_buildWith built, ?_, ?_⟩
  · intro state among rule inside
    obtain ⟨line, -, statement, assembled, isRule, rfl⟩ := rules state among rule inside
    exact ruleStart_begins assembled isRule
  · intro state among rule inside
    obtain ⟨line, isLine, statement, assembled, -, rfl⟩ := rules state among rule inside
    exact (lacks_of_assembleWith newline (Text.not_mem_of_mem_lines isLine) assembled).text
  · intro absent state among rule inside
    obtain ⟨line, isLine, statement, assembled, -, rfl⟩ := rules state among rule inside
    have solid : '\r' ∉ line := fun member => absent (Text.mem_lines_spec isLine member).1
    exact (lacks_of_assembleWith (by decide) solid assembled).text
  · intro known among
    obtain ⟨line, -, statement, assembled, single, captured, name, -⟩ := captures known among
    rw [← name]
    exact isVariableName_of_assembleWith assembled single captured
  · intro known among
    obtain ⟨line, isLine, statement, assembled, single, captured, -, pattern⟩ :=
      captures known among
    have lacks := lacks_of_assembleWith newline (Text.not_mem_of_mem_lines isLine) assembled
    rw [← pattern]
    exact lacks.pattern single captured

end Template

end LineTemplate
