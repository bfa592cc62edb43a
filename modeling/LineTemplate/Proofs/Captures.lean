import LineTemplate.Proofs.Finishing
import LineTemplate.Proofs.Occurrences
import LineTemplate.Proofs.Reassembly

/-!
Contract: what an assembled statement says about the variables that it captures.

Owns:
- that finishing keeps references;
- `Statement.WellFormed` and that every statement of the built-in engine is so.

Does not own: what a template declares.
-/

namespace LineTemplate

namespace Variable

/-- Options that are added to those that others leave without repetition are left with
them. -/
theorem foldl_addOption_eq {captured : Variable} {given : List ValueOption}
    (same : captured.options = given.eraseDups) (options : List ValueOption) :
    options.foldl addOption captured =
      { captured with options := (given ++ options).eraseDups } := by
  induction options generalizing captured given with
  | nil => rw [List.foldl_nil, List.append_nil, ← same]
  | cons option options inductionHypothesis =>
      rw [List.foldl_cons, List.append_cons]
      by_cases known : option ∈ given
      · have kept : captured.addOption option = captured :=
          if_pos (by rwa [same, List.mem_eraseDups])
        rw [kept]
        exact inductionHypothesis (by rw [same, eraseDups_concat_of_mem known])
      · have added : captured.addOption option =
            { captured with options := captured.options ++ [option] } :=
          if_neg (by rwa [same, List.mem_eraseDups])
        rw [added]
        exact inductionHypothesis (by rw [same, eraseDups_concat_of_not_mem known])

end Variable

theorem ExpandedPart.nodup_options_of_ofCall {call : KeywordCall} {captured : Variable}
    (expanded : ofCall call = .ok (.capture captured)) : captured.options.Nodup := by
  obtain ⟨known, -, made⟩ := bind_eq_ok_iff.mp expanded
  split at made
  · split at made
    · cases made
    · cases made
  · dsimp only at made
    split at made
    · rename_i name named
      simp only [Except.ok.injEq, ExpandedPart.capture.injEq] at made
      rw [← made, Variable.foldl_addOption_eq List.eraseDups_nil.symm]
      exact nodup_eraseDups _
    · cases made

/-- No variable of a line has an option twice. -/
theorem AnnotatedText.nodup_options_of_expand {annotated : AnnotatedText}
    {parts : List ExpandedPart} (expanded : annotated.expand = .ok parts) :
    ∀ captured ∈ capturedVariables parts, captured.options.Nodup := by
  have sound : ∀ part ∈ parts, ∀ captured, part = .capture captured → captured.options.Nodup :=
    forall_parts_of_expandFrom (fun _ _ other => by cases other)
      (fun _ _ _ made _ same => ExpandedPart.nodup_options_of_ofCall (same ▸ made)) expanded
  intro captured among
  obtain ⟨part, member, bound⟩ := List.mem_filterMap.mp among
  cases part with
  | literal text => cases bound
  | inline pattern => cases bound
  | capture other =>
      cases bound
      exact sound _ member captured rfl

/-! ### References -/

namespace Statement

theorem infix_anchorStart {captured : Variable} {body : Text}
    (occurs : captured.reference <:+: body) : captured.reference <:+: anchorStart body := by
  rcases anchorStart_cases body with ⟨rest, rfl, same⟩ | ⟨rest, -, same⟩ | same
  · rw [same]
    have inside : captured.reference <:+: rest := by
      rw [List.append_cons] at occurs
      exact Text.infix_of_infix_append_left (by decide) occurs
    exact inside.trans (List.suffix_append ('^' :: ignoreCaseFlag) rest).isInfix
  · rwa [same]
  · rw [same]
    exact occurs.trans (List.suffix_cons _ _).isInfix

theorem infix_anchorEnd {captured : Variable} {body : Text}
    (occurs : captured.reference <:+: body) : captured.reference <:+: anchorEnd body := by
  obtain ⟨before, after, rfl⟩ := occurs
  have split : before ++ captured.reference ++ after =
      before ++ '$' :: '{' :: captured.name ++ '}' :: after := by
    simp [Variable.reference]
  have solid : '}' ≠ '$' := by decide
  obtain ⟨more, same⟩ :=
    exists_anchorEnd_append (before ++ '$' :: '{' :: captured.name) after solid
  rw [split, same]
  exact ⟨before, more, by simp [Variable.reference]⟩

/-- Finishing keeps the references of a body. -/
theorem infix_finish {captured : Variable} {line : Line} {body : Text}
    (occurs : captured.reference <:+: body) : captured.reference <:+: finish line body := by
  have finished : captured.reference <:+: finishBody line body := by
    unfold finishBody
    dsimp only
    split
    · exact infix_anchorEnd (infix_anchorStart occurs)
    · exact infix_anchorStart occurs
  obtain ⟨before, after, same⟩ := finished
  exact ⟨Line.indentation ++ before, after ++ directiveText line, by simp [finish, ← same]⟩

/-! ### Statements -/

/-- A statement that says something of every variable that it captures: it is a rule, it
refers to each, captures none twice, and repeats no option. -/
structure WellFormed (statement : Statement) : Prop where
  onlyRules : statement.kind ≠ .rule → statement.captured = []
  names : (statement.captured.map Variable.name).Nodup
  options : ∀ captured ∈ statement.captured, captured.options.Nodup
  references : ∀ captured ∈ statement.captured, captured.reference <:+: statement.text

theorem wellFormed_of_uncaptured (kind : StatementKind) (text : Text) :
    WellFormed ⟨kind, text, []⟩ where
  onlyRules _ := rfl
  names := List.nodup_nil
  options := by simp
  references := by simp

/-- What is written in the place of a capture is its reference. -/
theorem infix_flatMap_statement {parts : List ExpandedPart} {captured : Variable}
    (among : captured ∈ parts.filterMap ExpandedPart.captured?) :
    captured.reference <:+: parts.flatMap ExpandedPart.statement := by
  obtain ⟨part, member, bound⟩ := List.mem_filterMap.mp among
  obtain ⟨before, after, rfl⟩ := List.append_of_mem member
  cases part with
  | literal text => cases bound
  | inline pattern => cases bound
  | capture other =>
      cases bound
      exact ⟨before.flatMap ExpandedPart.statement, after.flatMap ExpandedPart.statement, by
        simp [ExpandedPart.statement]⟩

theorem wellFormed_of_expandWith {judge : PatternJudge} {line : Line} {expansion : Expansion}
    (expanded : expandWith judge line.content line.ignoreCase = .ok expansion) :
    WellFormed ⟨.rule, finish line (bodyOf judge line expansion), expansion.captured⟩ := by
  obtain ⟨parts, found, -, text, captured⟩ := exists_parts_of_expandWith expanded
  change expansion.captured = capturedVariables parts at captured
  have distinct := (AnnotatedText.nodup_boundNames_of_expandFrom found).1
  rw [← map_name_capturedVariables] at distinct
  refine ⟨fun other => absurd rfl other, ?_, ?_, ?_⟩
  · rw [captured]
    exact distinct
  · intro single among
    change single ∈ expansion.captured at among
    rw [captured] at among
    exact AnnotatedText.nodup_options_of_expand found single among
  · intro single among
    change single ∈ expansion.captured at among
    have inText : single.reference <:+: expansion.text := by
      rw [captured] at among
      rw [text]
      exact (infix_flatMap_statement among).trans (List.suffix_append _ _).isInfix
    cases expansion with
    | captures _ statement => exact infix_finish inText
    | plain _ => cases among

/-- Every statement of the built-in engine is well formed. -/
theorem wellFormed_of_assembleWith {judge : PatternJudge} {raw : Text} {statement : Statement}
    (assembled : assembleWith judge (expandWith judge) raw = .ok statement) :
    statement.WellFormed := by
  rcases assembleWith_eq_ok assembled with ⟨-, rfl | rfl | ⟨rfl, -⟩⟩ | ⟨expansion, -, expanded, rfl⟩
  · exact wellFormed_of_uncaptured .blank []
  · exact wellFormed_of_uncaptured .stateName raw
  · exact wellFormed_of_uncaptured .rule raw
  · exact wellFormed_of_expandWith expanded

end Statement

end LineTemplate
