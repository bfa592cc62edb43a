import LineTemplate.Proofs.Declarations
import LineTemplate.Proofs.GroupedRules

/-!
Contract: the variables of a template.

Owns: `Template.declaresCaptures`: a template declares exactly what its lines capture, and
its rules refer to what it declares.

Does not own: the failure of lines whose captures conflict.
-/

namespace LineTemplate

namespace Statement

theorem allCaptured_of_forall₂ {assembler : Assembler} {lines : List Text}
    {statements : List Statement}
    (assembled : List.Forall₂ (fun line statement => assembler line = .ok statement) lines
      statements) :
    lines.flatMap (lineCaptured assembler) = allCaptured statements := by
  induction assembled with
  | nil => rfl
  | cons first _ inductionHypothesis =>
      rw [List.flatMap_cons, inductionHypothesis, lineCaptured, first]
      rfl

/-- Variables declare the captures of statements: each name once, in the order of the first
captures, with the pattern that all captures of the name have and with the options that
they have between them. -/
structure DeclaredBy (statements : List Statement) (declared : List Variable) : Prop where
  names : declared.map Variable.name = ((allCaptured statements).map Variable.name).eraseDups
  distinct : (declared.map Variable.name).Nodup
  captured : ∀ name, name ∈ declared.map Variable.name ↔
    ∃ statement ∈ statements, ∃ single ∈ statement.captured, single.name = name
  pattern : ∀ known ∈ declared, ∀ statement ∈ statements, ∀ single ∈ statement.captured,
    single.name = known.name → known.pattern = single.pattern
  distinctOptions : ∀ known ∈ declared, known.options.Nodup
  options : ∀ known ∈ declared, known.options =
    ((capturesOf known.name (allCaptured statements)).flatMap Variable.options).eraseDups

theorem map_name_declarationsOf (captured : List Variable) :
    (declarationsOf captured).map Variable.name = (captured.map Variable.name).eraseDups := by
  have each : ∀ names : List Text, (∀ name ∈ names, name ∈ captured.map Variable.name) →
      (names.filterMap (declarationOf? captured)).map Variable.name = names := by
    intro names among
    induction names with
    | nil => rfl
    | cons name names inductionHypothesis =>
        obtain ⟨first, others⟩ := List.forall_mem_cons.mp among
        cases declared : declarationOf? captured name with
        | none => exact absurd first (declarationOf?_eq_none_iff.mp declared)
        | some known =>
            rw [List.filterMap_cons_some declared, List.map_cons, inductionHypothesis others,
              name_of_declarationOf? declared]
  exact each _ fun _ => List.mem_eraseDups.mp

theorem declarationOf?_of_mem {captured : List Variable} {known : Variable}
    (among : known ∈ declarationsOf captured) :
    declarationOf? captured known.name = some known := by
  obtain ⟨name, -, declared⟩ := List.mem_filterMap.mp among
  rwa [name_of_declarationOf? declared]

theorem declaredBy_declarationsOf {statements : List Statement}
    (agree : Agree (allCaptured statements)) :
    DeclaredBy statements (declarationsOf (allCaptured statements)) := by
  have names := map_name_declarationsOf (allCaptured statements)
  refine ⟨names, names ▸ nodup_eraseDups _, ?_, ?_, ?_, ?_⟩
  · intro name
    rw [names, List.mem_eraseDups]
    constructor
    · intro captured
      obtain ⟨single, among, same⟩ := List.mem_map.mp captured
      obtain ⟨statement, member, inside⟩ := List.mem_flatMap.mp among
      exact ⟨statement, member, single, inside, same⟩
    · rintro ⟨statement, member, single, inside, same⟩
      exact List.mem_map.mpr ⟨single, List.mem_flatMap.mpr ⟨statement, member, inside⟩, same⟩
  · intro known among statement member single captured same
    obtain ⟨first, found, whole⟩ := Option.map_eq_some_iff.mp (declarationOf?_of_mem among)
    have filtered := List.mem_filter.mp (List.mem_of_head? found)
    have named : first.name = known.name := by simpa using filtered.2
    rw [← whole]
    exact agree single (List.mem_flatMap.mpr ⟨statement, member, captured⟩) first filtered.1
      (named.trans same.symm)
  · intro known among
    obtain ⟨first, -, whole⟩ := Option.map_eq_some_iff.mp (declarationOf?_of_mem among)
    rw [← whole]
    exact nodup_eraseDups _
  · intro known among
    obtain ⟨first, -, whole⟩ := Option.map_eq_some_iff.mp (declarationOf?_of_mem among)
    exact (congrArg Variable.options whole).symm

end Statement

/-- A draft declares what the lines taken in capture, and their captures agree. -/
theorem Draft.declared_of_addLines {assembler : Assembler} (wellFormed : assembler.WellFormed)
    {defaultState : Text} {draft : Draft} {lines : List Text} {statements : List Statement}
    (taken : empty.addLines assembler defaultState 1 lines = .ok draft)
    (assembled : List.Forall₂ (fun line statement => assembler line = .ok statement)
      lines statements) :
    draft.declared = Statement.declarationsOf (Statement.allCaptured statements) ∧
      Statement.Agree (Statement.allCaptured statements) := by
  have start : empty.declared = Statement.declarationsOf [] := rfl
  have outcome := map_declared_addLines wellFormed defaultState start 1 lines
  rw [taken, List.nil_append, Statement.allCaptured_of_forall₂ assembled] at outcome
  cases fault : firstFault? assembler [] 1 lines with
  | some fault =>
      rw [fault] at outcome
      cases outcome
  | none =>
      rw [fault] at outcome
      have agree := agree_of_firstFault? Statement.agree_nil fault
      rw [List.nil_append, Statement.allCaptured_of_forall₂ assembled] at agree
      exact ⟨Except.ok.inj outcome, agree⟩

namespace Template

/-- A template declares what its lines capture, and refers in its rules to all that it
declares. -/
theorem declaresCaptures {judge : PatternJudge} {defaultState text : Text}
    {metadata : Option Metadata} {template : Template}
    (built : buildBy judge defaultState metadata text = .ok template) :
    ∃ statements,
      (Text.lines text).mapM (Statement.assembleBy judge) = .ok statements ∧
        Statement.DeclaredBy statements template.declared ∧
        ∀ known ∈ template.declared, ∃ state ∈ template.states, ∃ rule ∈ state.statements,
          known.reference <:+: rule := by
  have wellFormed := Statement.wellFormed_assembleBy judge
  obtain ⟨draft, taken, rfl⟩ := buildWith_eq_ok built
  obtain ⟨statements, assembled, folded⟩ := Draft.addLines_eq_ok taken
  have places := forall₂_of_mapM assembled
  obtain ⟨declared, agree⟩ := Draft.declared_of_addLines wellFormed taken places
  have whole : Statement.DeclaredBy statements draft.declared :=
    declared ▸ Statement.declaredBy_declarationsOf agree
  refine ⟨statements, assembled, whole, ?_⟩
  intro known among
  obtain ⟨statement, member, single, captured, same⟩ :=
    (whole.captured known.name).mp (List.mem_map_of_mem among)
  obtain ⟨line, -, made⟩ := (mem_iff_of_forall₂ places).mp member
  have isRule : statement.kind = .rule := by
    by_contra other
    rw [(wellFormed line statement made).onlyRules other] at captured
    cases captured
  have follows := (Draft.follows_empty defaultState).foldlM folded
  rw [List.nil_append] at follows
  obtain ⟨state, inTemplate, rule⟩ :=
    (Statement.groupedBy_statesOf defaultState statements).kept statement member isRule
  refine ⟨state, follows.states ▸ inTemplate, statement.text, rule, ?_⟩
  have reference := (wellFormed line statement made).references single captured
  rwa [Variable.reference, same] at reference

/-- A variable that is captured again is declared once, with the options of both captures
in order. -/
theorem declaresCaptures_again :
    buildBy Pattern.judge startState none
        "a digits(var_a,Key) word(var_b)\nport digits(var_a,Required,Key)".toList =
      .ok ⟨none,
        [⟨"a".toList, "\\d+".toList, [.key, .required]⟩,
          ⟨"b".toList, "[a-zA-Z][a-zA-Z0-9]*".toList, []⟩],
        [⟨startState, ["  ^a $\x7ba\x7d $\x7bb\x7d".toList, "  ^port $\x7ba\x7d".toList]⟩]⟩ ∧
    ∃ statements,
      (Text.lines "a digits(var_a,Key) word(var_b)\nport digits(var_a,Required,Key)".toList).mapM
          (Statement.assembleBy Pattern.judge) = .ok statements ∧
        Statement.DeclaredBy statements
          [⟨"a".toList, "\\d+".toList, [.key, .required]⟩,
            ⟨"b".toList, "[a-zA-Z][a-zA-Z0-9]*".toList, []⟩] ∧
        ∀ known ∈ ([⟨"a".toList, "\\d+".toList, [.key, .required]⟩,
            ⟨"b".toList, "[a-zA-Z][a-zA-Z0-9]*".toList, []⟩] : List Variable),
          ∃ state ∈ ([⟨startState, ["  ^a $\x7ba\x7d $\x7bb\x7d".toList,
              "  ^port $\x7ba\x7d".toList]⟩] : List State),
            ∃ rule ∈ state.statements, known.reference <:+: rule :=
  have built : build startState none
        "a digits(var_a,Key) word(var_b)\nport digits(var_a,Required,Key)".toList =
      .ok ⟨none,
        [⟨"a".toList, "\\d+".toList, [.key, .required]⟩,
          ⟨"b".toList, "[a-zA-Z][a-zA-Z0-9]*".toList, []⟩],
        [⟨startState, ["  ^a $\x7ba\x7d $\x7bb\x7d".toList, "  ^port $\x7ba\x7d".toList]⟩]⟩ :=
    eq_ok_of_toOption (by decide +kernel)
  ⟨built, declaresCaptures built⟩

end Template

end LineTemplate
