import LineTemplate.Proofs.Declarations
import LineTemplate.Proofs.GroupedRules

/-!
Contract: which texts no template is built of, and why.

Owns:
- the faults of a line after other lines, and the lines that have one;
- that the first fault of lines is that of the first line that has one;
- `Template.build_endsByFirstFault`.

Does not own: the causes for which a line cannot be assembled.
-/

namespace LineTemplate

/-! ### Faulty lines -/

/-- A line captures the name of a variable with a pattern that is not the variable's. -/
def ConflictsWith (assembler : Assembler) (before : List Text) (single : Variable) : Prop :=
  ∃ line ∈ before, ∃ statement, assembler line = .ok statement ∧
    ∃ other ∈ statement.captured, other.name = single.name ∧ other.pattern ≠ single.pattern

/-- A line that cannot be assembled, or that captures a name which an earlier line captures
with another pattern. -/
def IsFaulty (assembler : Assembler) (before : List Text) (line : Text) : Prop :=
  (∃ cause, assembler line = .error cause) ∨
    ∃ statement, assembler line = .ok statement ∧
      ∃ single ∈ statement.captured, ConflictsWith assembler before single

/-- No line is faulty after the lines before it. -/
def Faultless (assembler : Assembler) (lines : List Text) : Prop :=
  ∀ before line after, lines = before ++ line :: after → ¬IsFaulty assembler before line

/-- What is wrong with a line after others: the cause for which it cannot be assembled,
with its number; or its leftmost variable that conflicts, with the pattern of the first
capture of its name. -/
inductive Fault (assembler : Assembler) (before : List Text) (line : Text) :
    TemplateError → Prop
  | line {cause : TemplateError} (failed : assembler line = .error cause) :
      Fault assembler before line (.line (before.length + 1) cause)
  | duplicateVariable {statement : Statement} {left right : List Variable}
      {single first : Variable} (assembled : assembler line = .ok statement)
      (captured : statement.captured = left ++ single :: right)
      (leftmost : ∀ other ∈ left, ¬ConflictsWith assembler before other)
      (earliest : (Statement.capturesOf single.name
        (before.flatMap (lineCaptured assembler))).head? = some first)
      (differs : first.pattern ≠ single.pattern) :
      Fault assembler before line
        (.duplicateVariable single.name first.pattern single.pattern)

variable {assembler : Assembler} {before lines : List Text} {line : Text}

theorem mem_flatMap_lineCaptured {other : Variable} :
    other ∈ before.flatMap (lineCaptured assembler) ↔
      ∃ line ∈ before, ∃ statement, assembler line = .ok statement ∧
        other ∈ statement.captured := by
  rw [List.mem_flatMap]
  constructor
  · rintro ⟨line, among, captured⟩
    unfold lineCaptured at captured
    split at captured
    · cases captured
    · rename_i statement assembled
      exact ⟨line, among, statement, assembled, captured⟩
  · rintro ⟨line, among, statement, assembled, captured⟩
    refine ⟨line, among, ?_⟩
    rwa [lineCaptured, assembled]

namespace Statement

theorem conflict?_eq_some_iff {earlier : List Variable} {next : Variable}
    {fault : TemplateError} :
    conflict? earlier next = some fault ↔
      ∃ first, (capturesOf next.name earlier).head? = some first ∧
        first.pattern ≠ next.pattern ∧
        fault = .duplicateVariable next.name first.pattern next.pattern := by
  rw [conflict?]
  cases (capturesOf next.name earlier).head? with
  | none => simp
  | some first =>
      rw [Option.bind_some]
      split
      · rename_i same
        simp [same]
      · rename_i differs
        constructor
        · rintro ⟨⟩
          exact ⟨first, rfl, differs, rfl⟩
        · rintro ⟨_, ⟨⟩, -, rfl⟩
          rfl

/-- Where the captures of lines agree, conflicting with the first capture of a name and
conflicting with any are the same. -/
theorem conflict?_eq_none_iff_not_conflictsWith {single : Variable}
    (agree : Agree (before.flatMap (lineCaptured assembler))) :
    conflict? (before.flatMap (lineCaptured assembler)) single = none ↔
      ¬ConflictsWith assembler before single := by
  rw [conflict?_eq_none_iff_of_agree agree]
  constructor
  · rintro fits ⟨line, among, statement, assembled, other, captured, same, differs⟩
    exact differs (fits other
      (mem_flatMap_lineCaptured.mpr ⟨line, among, statement, assembled, captured⟩) same)
  · intro free other among same
    obtain ⟨line, member, statement, assembled, captured⟩ := mem_flatMap_lineCaptured.mp among
    by_contra differs
    exact free ⟨line, member, statement, assembled, other, captured, same, differs⟩

theorem conflict?_concat_of_ne {earlier : List Variable} {next other : Variable}
    (distinct : next.name ≠ other.name) :
    conflict? (earlier ++ [next]) other = conflict? earlier other := by
  rw [conflict?, capturesOf_concat_of_ne distinct, conflict?]

/-- The captures of a line have different names, so none conflicts with another one. -/
theorem captureFault?_eq_findSome? {earlier captured : List Variable}
    (distinct : (captured.map Variable.name).Nodup) :
    captureFault? earlier captured = captured.findSome? (conflict? earlier) := by
  induction captured generalizing earlier with
  | nil => rfl
  | cons next more inductionHypothesis =>
      rw [List.map_cons, List.nodup_cons] at distinct
      have unchanged : more.findSome? (conflict? (earlier ++ [next])) =
          more.findSome? (conflict? earlier) := by
        rw [← List.head?_filterMap, ← List.head?_filterMap]
        exact congrArg List.head? (List.filterMap_congr fun other among =>
          conflict?_concat_of_ne fun same => distinct.1 (same ▸ List.mem_map_of_mem among))
      rw [captureFault?_cons, inductionHypothesis distinct.2, unchanged, List.findSome?_cons]
      cases conflict? earlier next with
      | none => rfl
      | some fault => rfl

end Statement

/-! ### The fault of a line -/

theorem lineFault?_eq_none_iff (wellFormed : assembler.WellFormed) (number : Nat)
    (agree : Statement.Agree (before.flatMap (lineCaptured assembler))) :
    lineFault? assembler (before.flatMap (lineCaptured assembler)) number line = none ↔
      ¬IsFaulty assembler before line := by
  rw [lineFault?, IsFaulty]
  cases assembled : assembler line with
  | error cause => simp
  | ok statement =>
      dsimp only
      rw [Statement.captureFault?_eq_findSome? (wellFormed line statement assembled).names,
        List.findSome?_eq_none_iff]
      simp [Statement.conflict?_eq_none_iff_not_conflictsWith agree]

theorem lineFault?_eq_some_iff (wellFormed : assembler.WellFormed)
    (agree : Statement.Agree (before.flatMap (lineCaptured assembler))) {fault : TemplateError} :
    lineFault? assembler (before.flatMap (lineCaptured assembler)) (before.length + 1) line =
        some fault ↔
      Fault assembler before line fault := by
  rw [lineFault?]
  constructor
  · intro found
    cases assembled : assembler line with
    | error cause =>
        rw [assembled] at found
        cases found
        exact .line assembled
    | ok statement =>
        rw [assembled] at found
        dsimp only at found
        rw [Statement.captureFault?_eq_findSome? (wellFormed line statement assembled).names,
          List.findSome?_eq_some_iff] at found
        obtain ⟨left, single, right, captured, conflict, free⟩ := found
        obtain ⟨first, earliest, differs, rfl⟩ := Statement.conflict?_eq_some_iff.mp conflict
        exact .duplicateVariable assembled captured
          (fun other among =>
            (Statement.conflict?_eq_none_iff_not_conflictsWith agree).mp (free other among))
          earliest differs
  · rintro (⟨failed⟩ | ⟨assembled, captured, leftmost, earliest, differs⟩)
    · rw [failed]
    · rename_i statement left right single first
      rw [assembled]
      dsimp only
      rw [Statement.captureFault?_eq_findSome? (wellFormed line statement assembled).names,
        List.findSome?_eq_some_iff]
      exact ⟨left, single, right, captured,
        Statement.conflict?_eq_some_iff.mpr ⟨first, earliest, differs, rfl⟩,
        fun other among =>
          (Statement.conflict?_eq_none_iff_not_conflictsWith agree).mpr (leftmost other among)⟩

/-! ### The first fault of lines -/

theorem firstFault?_append (earlier : List Variable) (number : Nat) (before more : List Text) :
    firstFault? assembler earlier number (before ++ more) =
      (firstFault? assembler earlier number before).or
        (firstFault? assembler (earlier ++ before.flatMap (lineCaptured assembler))
          (number + before.length) more) := by
  induction before generalizing earlier number with
  | nil => simp [firstFault?]
  | cons line before inductionHypothesis =>
      rw [List.cons_append, firstFault?, inductionHypothesis, firstFault?, Option.or_assoc,
        List.flatMap_cons, List.append_assoc, List.length_cons, Nat.add_right_comm, Nat.add_assoc]

theorem firstFault?_concat (before : List Text) (line : Text) :
    firstFault? assembler [] 1 (before ++ [line]) =
      (firstFault? assembler [] 1 before).or
        (lineFault? assembler (before.flatMap (lineCaptured assembler)) (before.length + 1)
          line) := by
  rw [firstFault?_append, firstFault?, firstFault?, Option.or_none, List.nil_append,
    Nat.add_comm 1]

theorem faultless_concat_iff :
    Faultless assembler (before ++ [line]) ↔
      Faultless assembler before ∧ ¬IsFaulty assembler before line := by
  constructor
  · intro faultless
    refine ⟨?_, faultless before line [] rfl⟩
    rintro front other after rfl
    exact faultless front other (after ++ [line]) (by simp)
  · rintro ⟨faultless, sound⟩ front other after same
    rcases List.eq_nil_or_concat after with rfl | ⟨init, last, rfl⟩
    · obtain ⟨rfl, rfl⟩ := List.concat_inj.mp (by simpa using same)
      exact sound
    · rw [List.concat_eq_append, ← List.cons_append, ← List.append_assoc] at same
      exact faultless front other init (List.append_inj_left' same rfl)

theorem agree_flatMap_lineCaptured (free : firstFault? assembler [] 1 lines = none) :
    Statement.Agree (lines.flatMap (lineCaptured assembler)) :=
  agree_of_firstFault? Statement.agree_nil free

theorem firstFault?_eq_none_iff (wellFormed : assembler.WellFormed) :
    firstFault? assembler [] 1 lines = none ↔ Faultless assembler lines := by
  -- From the last line on: what the lines before it capture agrees, as they have no fault.
  induction lines using List.reverseRecOn with
  | nil => simp [firstFault?, Faultless]
  | append_singleton lines line inductionHypothesis =>
      rw [firstFault?_concat, Option.or_eq_none_iff, faultless_concat_iff, inductionHypothesis]
      refine and_congr_right fun faultless => lineFault?_eq_none_iff wellFormed _ ?_
      exact agree_flatMap_lineCaptured (inductionHypothesis.mpr faultless)

/-- The first fault is that of a line after others that have none. -/
theorem exists_fault_of_firstFault? (wellFormed : assembler.WellFormed) {fault : TemplateError}
    (found : firstFault? assembler [] 1 lines = some fault) :
    ∃ before line after, lines = before ++ line :: after ∧ Faultless assembler before ∧
      Fault assembler before line fault := by
  induction lines using List.reverseRecOn with
  | nil => cases found
  | append_singleton lines line inductionHypothesis =>
      rw [firstFault?_concat, Option.or_eq_some_iff] at found
      rcases found with earlier | ⟨free, last⟩
      · obtain ⟨before, other, after, rfl, faultless, fault⟩ := inductionHypothesis earlier
        exact ⟨before, other, after ++ [line], by simp, faultless, fault⟩
      · refine ⟨lines, line, [], rfl, (firstFault?_eq_none_iff wellFormed).mp free, ?_⟩
        exact (lineFault?_eq_some_iff wellFormed (agree_flatMap_lineCaptured free)).mp last

theorem firstFault?_of_fault (wellFormed : assembler.WellFormed) {fault : TemplateError}
    (faultless : Faultless assembler before) (wrong : Fault assembler before line fault)
    (after : List Text) : firstFault? assembler [] 1 (before ++ line :: after) = some fault := by
  have free := (firstFault?_eq_none_iff wellFormed).mpr faultless
  have last :=
    (lineFault?_eq_some_iff wellFormed (agree_flatMap_lineCaptured free)).mpr wrong
  rw [List.append_cons, firstFault?_append, firstFault?_concat, free, last]
  rfl

theorem exists_fault_of_isFaulty (wellFormed : assembler.WellFormed)
    (faultless : Faultless assembler before) (faulty : IsFaulty assembler before line) :
    ∃ fault, Fault assembler before line fault := by
  have agree := agree_flatMap_lineCaptured ((firstFault?_eq_none_iff wellFormed).mpr faultless)
  cases found : lineFault? assembler (before.flatMap (lineCaptured assembler)) (before.length + 1)
      line with
  | none => exact absurd faulty ((lineFault?_eq_none_iff wellFormed _ agree).mp found)
  | some fault => exact ⟨fault, (lineFault?_eq_some_iff wellFormed agree).mp found⟩

/-! ### Templates -/

/-- Some line is assembled to a rule. -/
def HasRule (assembler : Assembler) (lines : List Text) : Prop :=
  ∃ line ∈ lines, ∃ statement, assembler line = .ok statement ∧ statement.kind = .rule

theorem Draft.hasRule_iff {defaultState : Text} {draft : Draft} {statements : List Statement}
    (follows : draft.Follows defaultState statements) :
    draft.hasRule = true ↔ ∃ statement ∈ statements, statement.kind = .rule := by
  have grouped := Statement.groupedBy_statesOf defaultState statements
  rw [← follows.states] at grouped
  rw [hasRule, List.any_eq_true]
  constructor
  · rintro ⟨state, among, filled⟩
    obtain ⟨text, more, given⟩ := List.exists_cons_of_ne_nil (by simpa using filled)
    have under : text ∈ state.statements := by
      rw [given]
      exact List.mem_cons_self
    rw [grouped.rules state among] at under
    obtain ⟨rule, member, isRule, -⟩ := Statement.exists_rule_of_mem_rulesUnder under
    exact ⟨rule, member, isRule⟩
  · rintro ⟨rule, member, isRule⟩
    obtain ⟨state, among, under⟩ := grouped.kept rule member isRule
    exact ⟨state, among, by simpa using List.ne_nil_of_mem under⟩

namespace Template

/-- How building ends: with the first fault of a line, or else with an empty template where
there is no rule, or else with a template. -/
structure EndsByFirstFault (assembler : Assembler) (lines : List Text)
    (outcome : Except TemplateError Template) : Prop where
  faulty : ((∃ number cause, outcome = .error (.line number cause)) ∨
      ∃ name first second, outcome = .error (.duplicateVariable name first second)) ↔
    ∃ before line after, lines = before ++ line :: after ∧ IsFaulty assembler before line
  first : ∀ before line after, lines = before ++ line :: after → Faultless assembler before →
    IsFaulty assembler before line →
      ∀ fault, outcome = .error fault ↔ Fault assembler before line fault
  empty : Faultless assembler lines →
    (outcome = .error .emptyTemplate ↔ ¬HasRule assembler lines)
  succeeds : Faultless assembler lines → HasRule assembler lines →
    ∃ template, outcome = .ok template

variable {text : Text}

theorem buildWith_of_firstFault? (wellFormed : assembler.WellFormed) (defaultState : Text)
    (metadata : Option Metadata) {fault : TemplateError}
    (found : firstFault? assembler [] 1 (Text.lines text) = some fault) :
    buildWith assembler defaultState metadata text = .error fault := by
  have start : Draft.empty.declared = Statement.declarationsOf [] := rfl
  have outcome := Draft.map_declared_addLines wellFormed defaultState start 1 (Text.lines text)
  rw [found] at outcome
  rw [buildWith]
  cases taken : Draft.empty.addLines assembler defaultState 1 (Text.lines text) with
  | error cause =>
      rw [taken] at outcome
      cases outcome
      rfl
  | ok draft =>
      rw [taken] at outcome
      cases outcome

theorem exists_draft_of_faultless (wellFormed : assembler.WellFormed) (defaultState : Text)
    (free : firstFault? assembler [] 1 (Text.lines text) = none) :
    ∃ draft, Draft.empty.addLines assembler defaultState 1 (Text.lines text) = .ok draft ∧
      (draft.hasRule = true ↔ HasRule assembler (Text.lines text)) := by
  have start : Draft.empty.declared = Statement.declarationsOf [] := rfl
  have outcome := Draft.map_declared_addLines wellFormed defaultState start 1 (Text.lines text)
  rw [free] at outcome
  cases taken : Draft.empty.addLines assembler defaultState 1 (Text.lines text) with
  | error cause =>
      rw [taken] at outcome
      cases outcome
  | ok draft =>
      obtain ⟨statements, assembled, folded⟩ := Draft.addLines_eq_ok taken
      have follows := (Draft.follows_empty defaultState).foldlM folded
      refine ⟨draft, rfl, (Draft.hasRule_iff follows).trans ?_⟩
      simp only [List.nil_append, mem_iff_of_forall₂ (forall₂_of_mapM assembled), HasRule]
      constructor
      · rintro ⟨statement, ⟨line, among, made⟩, isRule⟩
        exact ⟨line, among, statement, made, isRule⟩
      · rintro ⟨line, among, statement, made, isRule⟩
        exact ⟨statement, ⟨line, among, made⟩, isRule⟩

theorem buildWith_of_faultless (wellFormed : assembler.WellFormed) (defaultState : Text)
    (metadata : Option Metadata)
    (free : firstFault? assembler [] 1 (Text.lines text) = none) :
    (HasRule assembler (Text.lines text) ∧
        ∃ template, buildWith assembler defaultState metadata text = .ok template) ∨
      ¬HasRule assembler (Text.lines text) ∧
        buildWith assembler defaultState metadata text = .error .emptyTemplate := by
  obtain ⟨draft, taken, rules⟩ := exists_draft_of_faultless wellFormed defaultState free
  rw [buildWith, taken]
  dsimp only
  by_cases filled : draft.hasRule = true
  · exact .inl ⟨rules.mp filled, _, if_pos filled⟩
  · exact .inr ⟨fun hasRule => filled (rules.mpr hasRule), if_neg filled⟩

/-- Where the first faulty line is known, its fault is what building fails with. -/
theorem buildWith_eq_error_iff (wellFormed : assembler.WellFormed) (defaultState : Text)
    (metadata : Option Metadata) {after : List Text}
    (lines : Text.lines text = before ++ line :: after) (faultless : Faultless assembler before)
    (faulty : IsFaulty assembler before line) (fault : TemplateError) :
    buildWith assembler defaultState metadata text = .error fault ↔
      Fault assembler before line fault := by
  have decided : ∀ fault, Fault assembler before line fault →
      buildWith assembler defaultState metadata text = .error fault := by
    intro fault wrong
    refine buildWith_of_firstFault? wellFormed defaultState metadata ?_
    rw [lines]
    exact firstFault?_of_fault wellFormed faultless wrong after
  obtain ⟨other, wrong⟩ := exists_fault_of_isFaulty wellFormed faultless faulty
  constructor
  · intro same
    rw [decided other wrong] at same
    cases same
    exact wrong
  · exact decided fault

/-- A faulty line, the first or a later one, makes building fail with some fault. -/
theorem exists_error_of_isFaulty (wellFormed : assembler.WellFormed) (defaultState : Text)
    (metadata : Option Metadata) {after : List Text}
    (lines : Text.lines text = before ++ line :: after)
    (faulty : IsFaulty assembler before line) :
    (∃ number cause,
        buildWith assembler defaultState metadata text = .error (.line number cause)) ∨
      ∃ name first second, buildWith assembler defaultState metadata text =
        .error (.duplicateVariable name first second) := by
  cases found : firstFault? assembler [] 1 (Text.lines text) with
  | none =>
      exact absurd faulty ((firstFault?_eq_none_iff wellFormed).mp found before line after lines)
  | some fault =>
      rw [buildWith_of_firstFault? wellFormed defaultState metadata found]
      obtain ⟨_, _, _, _, _, wrong⟩ := exists_fault_of_firstFault? wellFormed found
      cases wrong with
      | line failed => exact .inl ⟨_, _, rfl⟩
      | duplicateVariable => exact .inr ⟨_, _, _, rfl⟩

/-- Building with the built-in assembler ends with the first fault, if there is one. -/
theorem build_endsByFirstFault (judge : PatternJudge) (defaultState text : Text)
    (metadata : Option Metadata) :
    EndsByFirstFault (Statement.assembleBy judge) (Text.lines text)
      (buildBy judge defaultState metadata text) := by
  have wellFormed := Statement.wellFormed_assembleBy judge
  have ended := fun faultless : Faultless (Statement.assembleBy judge) (Text.lines text) =>
    buildWith_of_faultless wellFormed defaultState metadata
      ((firstFault?_eq_none_iff wellFormed).mpr faultless)
  rw [buildBy]
  refine ⟨⟨?_, ?_⟩, ?_, ?_, ?_⟩
  · intro named
    by_contra sound
    have faultless : Faultless (Statement.assembleBy judge) (Text.lines text) :=
      fun before line after lines faulty => sound ⟨before, line, after, lines, faulty⟩
    rcases ended faultless with ⟨-, template, built⟩ | ⟨-, nothing⟩
    · simp [built] at named
    · simp [nothing] at named
  · rintro ⟨before, line, after, lines, faulty⟩
    exact exists_error_of_isFaulty wellFormed defaultState metadata lines faulty
  · intro before line after lines faultless faulty fault
    exact buildWith_eq_error_iff wellFormed defaultState metadata lines faultless faulty fault
  · intro faultless
    rcases ended faultless with ⟨rule, template, built⟩ | ⟨noRule, nothing⟩
    · simp [built, rule]
    · simp [nothing, noRule]
  · intro faultless rule
    rcases ended faultless with ⟨-, built⟩ | ⟨noRule, -⟩
    · exact built
    · exact absurd rule noRule

example : build startState none "a digits(var_a)\n\nb word(var_a) word(var_b,up)".toList =
    .error (.line 3 (.content (.unknownArgument "word".toList "up".toList))) := by
  decide +kernel

end Template

end LineTemplate
