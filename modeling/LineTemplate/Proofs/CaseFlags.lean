import LineTemplate.Proofs.ExpandedRules
import LineTemplate.Proofs.StatementEnds

/-!
Contract: what the case flag of a line changes in its rule.

Owns:
- `Line.DiffersInCase`, two lines of which only the second ignores case;
- that the bodies of such lines differ in the flag in front only, and that finishing moves
  the flag behind the anchor and is alike otherwise;
- `Statement.rules_of_differsInCase`: the rules of such lines.

Does not own: how a marker sets the flag.

A body that is closed changes only behind its last character that is neither a dollar sign
nor a backslash. The anchor in front and the parenthesis of the flag are such characters, so
that both bodies are closed alike.
-/

namespace LineTemplate

/-- Two lines with one content and one directive, of which the second ignores case. -/
structure Line.DiffersInCase (sensitive insensitive : Line) : Prop where
  content : insensitive.content = sensitive.content
  directive : insensitive.directive = sensitive.directive
  respected : sensitive.ignoreCase = false
  ignored : insensitive.ignoreCase = true

/-! ### Expansions -/

section Expansions

variable {judge : PatternJudge} {sensitive insensitive : Line} {expansion other : Expansion}

/-- The flag stands in front of what is expanded, and changes nothing in it. -/
theorem expansions_of_differsInCase (differs : sensitive.DiffersInCase insensitive)
    (expanded : expandWith judge sensitive.content sensitive.ignoreCase = .ok expansion)
    (again : expandWith judge insensitive.content insensitive.ignoreCase = .ok other) :
    other.captured = expansion.captured ∧ other.text = ignoreCaseFlag ++ expansion.text := by
  obtain ⟨parts, found, -, text, captured⟩ := exists_parts_of_expandWith expanded
  obtain ⟨otherParts, otherFound, -, otherText, otherCaptured⟩ := exists_parts_of_expandWith again
  rw [differs.content, found] at otherFound
  cases otherFound
  refine ⟨otherCaptured.trans captured.symm, ?_⟩
  rw [otherText, text, differs.respected, differs.ignored]
  rfl

theorem isVerbatim_iff_of_differsInCase (differs : sensitive.DiffersInCase insensitive)
    (expanded : expandWith judge sensitive.content sensitive.ignoreCase = .ok expansion)
    (again : expandWith judge insensitive.content insensitive.ignoreCase = .ok other) :
    insensitive.IsVerbatim judge ↔ sensitive.IsVerbatim judge := by
  have captured := (expansions_of_differsInCase differs expanded again).1
  constructor
  · rintro ⟨⟨text, plain⟩, accepted, solid⟩
    rw [again] at plain
    cases plain
    have same := eq_plain_of_expandWith expanded captured.symm
    exact ⟨⟨expansion.text, same ▸ expanded⟩, differs.content ▸ accepted, differs.content ▸ solid⟩
  · rintro ⟨⟨text, plain⟩, accepted, solid⟩
    rw [expanded] at plain
    cases plain
    have same := eq_plain_of_expandWith again captured
    exact ⟨⟨other.text, same ▸ again⟩, by rw [differs.content, accepted],
      by rw [differs.content, solid]⟩

/-- What a part is in a rule does not begin with a flag. -/
theorem ExpandedPart.beginsPlainly_statement {call : KeywordCall} {part : ExpandedPart}
    (known : call.keyword ∈ Keyword.all) (expanded : ofCall call = .ok part) :
    beginsPlainly part.statement = true := by
  obtain ⟨arguments, -, ⟨-, rfl⟩ | ⟨-, rfl⟩ | ⟨-, captured, -, -, rfl⟩⟩ := ofCall_eq_ok expanded
  · exact LineTemplate.beginsPlainly_pattern known
  · exact CallArguments.beginsPlainly_pattern known arguments
  · rfl

theorem not_flag_of_beginsPlainly {text : Text} (plain : beginsPlainly text = true) :
    ¬ignoreCaseFlag <+: text := by
  rintro ⟨rest, rfl⟩
  cases plain

/-- The text of an expansion that respects case does not begin with a flag. -/
theorem not_flag_of_expandWith {content : Text}
    (expanded : expandWith judge content false = .ok expansion) :
    ¬ignoreCaseFlag <+: expansion.text := by
  obtain ⟨parts, found, -, text, -⟩ := exists_parts_of_expandWith expanded
  have plain : beginsPlainly (parts.flatMap ExpandedPart.statement) = true :=
    composes_beginsPlainly.flatMap (AnnotatedText.forall_parts_of_expandFrom beginsPlainly_encode
      (fun call member part => ExpandedPart.beginsPlainly_statement
        (AnnotatedText.keyword_mem_of_mem_calls member)) found)
  rw [text]
  exact not_flag_of_beginsPlainly plain

end Expansions

namespace Statement

/-! ### Finishing -/

/-- Dollar signs are dropped in front of a character only that is none and escapes none. -/
theorem dropSurplusAnchors_append (reversed : Text) {last : Char} (front : Text)
    (solid : last ≠ '$') (plain : last ≠ '\\') :
    dropSurplusAnchors (reversed ++ last :: front) =
      dropSurplusAnchors reversed ++ last :: front := by
  induction reversed with
  | nil =>
      apply dropSurplusAnchors_of_not_anchorLeads
      simp [Literal.anchorLeads, solid]
  | cons first before inductionHypothesis =>
      by_cases dollar : first = '$'
      · subst dollar
        rw [List.cons_append, dropSurplusAnchors, dropSurplusAnchors,
          Literal.anchorLeads_append before front solid plain]
        split
        · exact inductionHypothesis
        · rfl
      · have kept : ∀ more, dropSurplusAnchors (first :: more) = first :: more := fun more =>
          dropSurplusAnchors_of_not_anchorLeads (by simp [Literal.anchorLeads, dollar])
        rw [List.cons_append, kept, kept, List.cons_append]

/-- A body is closed behind such a character as what stands there would be alone. -/
theorem anchorEnd_append (front : Text) {last : Char} (rest : Text) (solid : last ≠ '$')
    (plain : last ≠ '\\') :
    anchorEnd (front ++ last :: rest) = front ++ last :: anchorEnd rest := by
  have reversed : (front ++ last :: rest).reverse = rest.reverse ++ last :: front.reverse := by
    simp
  rw [anchorEnd, anchorEnd, closeReversed, closeReversed, reversed,
    dropSurplusAnchors_append _ _ solid plain, Literal.anchorLeads_append _ _ solid plain]
  split <;> simp

/-- A flag in front of a body without one comes behind the anchor that the body gets. -/
theorem exists_anchorStart_flag {body : Text} (unflagged : ¬ignoreCaseFlag <+: body) :
    ∃ rest, anchorStart body = '^' :: rest ∧
      anchorStart (ignoreCaseFlag ++ body) = '^' :: (ignoreCaseFlag ++ rest) := by
  by_cases first : ['^'] <+: body
  · obtain ⟨rest, rfl⟩ := first
    exact ⟨rest, anchorStart_lineStart rest, anchorStart_flag rest⟩
  · have bare : ¬BeginsAnchored body := by
      rintro (flagged | anchored)
      · exact unflagged ((List.prefix_append _ _).trans flagged)
      · exact first anchored
    have behind : ¬BeginsAnchored (ignoreCaseFlag ++ body) := by
      rintro (flagged | ⟨rest, anchored⟩)
      · exact first ((List.prefix_append_right_inj _).mp flagged)
      · cases anchored
    exact ⟨body, anchorStart_of_not_beginsAnchored bare, anchorStart_of_not_beginsAnchored behind⟩

section Bodies

variable {sensitive insensitive : Line}

/-- Bodies that differ in the flag are finished alike, the flag apart. -/
theorem exists_finishBody_flag (differs : sensitive.DiffersInCase insensitive) {body : Text}
    (unflagged : ¬ignoreCaseFlag <+: body) :
    ∃ rest, finishBody sensitive body = '^' :: rest ∧
      finishBody insensitive (ignoreCaseFlag ++ body) = '^' :: (ignoreCaseFlag ++ rest) := by
  obtain ⟨rest, started, flagged⟩ := exists_anchorStart_flag unflagged
  rw [finishBody, finishBody, started, flagged, differs.content]
  split
  · -- What is closed stands behind the anchor in one body, and behind the parenthesis of the
    -- flag in the other.
    have closed : anchorEnd ('^' :: rest) = '^' :: anchorEnd rest :=
      anchorEnd_append [] rest (by decide) (by decide)
    have closedFlag : anchorEnd ('^' :: (ignoreCaseFlag ++ rest)) =
        '^' :: (ignoreCaseFlag ++ anchorEnd rest) :=
      anchorEnd_append "^(?i".toList rest (by decide) (by decide)
    exact ⟨anchorEnd rest, closed, closedFlag⟩
  · exact ⟨rest, rfl, rfl⟩

variable {judge : PatternJudge} {expansion other : Expansion}

/-- The flag stands in front of the body, be it the content or an expansion. -/
theorem bodyOf_of_differsInCase (differs : sensitive.DiffersInCase insensitive)
    (expanded : expandWith judge sensitive.content sensitive.ignoreCase = .ok expansion)
    (again : expandWith judge insensitive.content insensitive.ignoreCase = .ok other) :
    bodyOf judge insensitive other = ignoreCaseFlag ++ bodyOf judge sensitive expansion := by
  have alike := isVerbatim_iff_of_differsInCase differs expanded again
  rcases bodyOf_cases expanded with ⟨verbatim, body⟩ | ⟨engine, body⟩ <;>
    rcases bodyOf_cases again with ⟨otherVerbatim, otherBody⟩ | ⟨otherEngine, otherBody⟩
  · rw [body, otherBody, Line.flaggedContent, Line.flaggedContent, differs.respected,
      differs.ignored, differs.content]
    rfl
  · exact absurd (alike.mpr verbatim) otherEngine
  · exact absurd (alike.mp otherVerbatim) engine
  · rw [body, otherBody]
    exact (expansions_of_differsInCase differs expanded again).2

/-- A body that respects case begins with a flag only if the content does. -/
theorem not_flag_bodyOf (respected : sensitive.ignoreCase = false)
    (unflagged : ¬ignoreCaseFlag <+: sensitive.content)
    (expanded : expandWith judge sensitive.content sensitive.ignoreCase = .ok expansion) :
    ¬ignoreCaseFlag <+: bodyOf judge sensitive expansion := by
  rcases bodyOf_cases expanded with ⟨-, body⟩ | ⟨-, body⟩
  · rw [body, Line.flaggedContent, respected]
    exact unflagged
  · rw [body]
    rw [respected] at expanded
    exact not_flag_of_expandWith expanded

end Bodies

/-! ### Rules -/

/-- Two lines of which only the second ignores case capture the same, and their rules differ
in the flag behind the anchor only. -/
theorem rules_of_differsInCase {judge : PatternJudge} {sensitive insensitive : Text}
    {first second : Statement}
    (differs : (Line.parse sensitive).DiffersInCase (Line.parse insensitive))
    (needed : (Line.parse sensitive).needsEngine = true)
    (neededAgain : (Line.parse insensitive).needsEngine = true)
    (unflagged : ¬ignoreCaseFlag <+: (Line.parse sensitive).content)
    (assembled : assembleWith judge (expandWith judge) sensitive = .ok first)
    (again : assembleWith judge (expandWith judge) insensitive = .ok second) :
    second.captured = first.captured ∧
      ∃ rest, first.text = Line.indentation ++ '^' :: rest ∧
        second.text = Line.indentation ++ '^' :: (ignoreCaseFlag ++ rest) := by
  obtain ⟨expansion, expanded, rfl⟩ := exists_expansion_of_needsEngine assembled needed
  obtain ⟨other, expandedAgain, rfl⟩ := exists_expansion_of_needsEngine again neededAgain
  refine ⟨(expansions_of_differsInCase differs expanded expandedAgain).1, ?_⟩
  obtain ⟨rest, body, otherBody⟩ :=
    exists_finishBody_flag differs (not_flag_bodyOf differs.respected unflagged expanded)
  have directed := directiveText_congr differs.directive
  refine ⟨rest ++ directiveText (Line.parse sensitive), ?_, ?_⟩
  · simp only [finish, body, List.append_assoc, List.cons_append]
  · rw [← bodyOf_of_differsInCase differs expanded expandedAgain] at otherBody
    simp only [finish, otherBody, directed, List.append_assoc, List.cons_append]

/-- A line with the start called, an escaped dollar sign and an anchor, with and without the
marker. -/
theorem rules_of_marked_line :
    (assembleWith Pattern.judge (expandWith Pattern.judge)
            "start() cost \\$ digits(var_n)$ -> Next".toList =
          .ok ⟨.rule, "  ^cost \\\\\\$ $\x7bn\x7d$ -> Next".toList,
            [⟨"n".toList, "\\d+".toList, []⟩]⟩ ∧
        assembleWith Pattern.judge (expandWith Pattern.judge)
            "ignore_case start() cost \\$ digits(var_n)$ -> Next".toList =
          .ok ⟨.rule, "  ^(?i)cost \\\\\\$ $\x7bn\x7d$ -> Next".toList,
            [⟨"n".toList, "\\d+".toList, []⟩]⟩ ∧
        (Line.parse "start() cost \\$ digits(var_n)$ -> Next".toList).DiffersInCase
          (Line.parse "ignore_case start() cost \\$ digits(var_n)$ -> Next".toList) ∧
        ¬ignoreCaseFlag <+: (Line.parse "start() cost \\$ digits(var_n)$ -> Next".toList).content) ∧
      [(⟨"n".toList, "\\d+".toList, []⟩ : Variable)] = [⟨"n".toList, "\\d+".toList, []⟩] ∧
      ∃ rest, "  ^cost \\\\\\$ $\x7bn\x7d$ -> Next".toList = Line.indentation ++ '^' :: rest ∧
        "  ^(?i)cost \\\\\\$ $\x7bn\x7d$ -> Next".toList =
          Line.indentation ++ '^' :: (ignoreCaseFlag ++ rest) :=
  have assembled : assembleWith Pattern.judge (expandWith Pattern.judge)
      "start() cost \\$ digits(var_n)$ -> Next".toList =
        .ok ⟨.rule, "  ^cost \\\\\\$ $\x7bn\x7d$ -> Next".toList,
          [⟨"n".toList, "\\d+".toList, []⟩]⟩ :=
    eq_ok_of_toOption (by decide +kernel)
  have again : assembleWith Pattern.judge (expandWith Pattern.judge)
      "ignore_case start() cost \\$ digits(var_n)$ -> Next".toList =
        .ok ⟨.rule, "  ^(?i)cost \\\\\\$ $\x7bn\x7d$ -> Next".toList,
          [⟨"n".toList, "\\d+".toList, []⟩]⟩ :=
    eq_ok_of_toOption (by decide +kernel)
  have differs : (Line.parse "start() cost \\$ digits(var_n)$ -> Next".toList).DiffersInCase
      (Line.parse "ignore_case start() cost \\$ digits(var_n)$ -> Next".toList) :=
    ⟨by decide +kernel, by decide +kernel, by decide +kernel, by decide +kernel⟩
  have unflagged :
      ¬ignoreCaseFlag <+: (Line.parse "start() cost \\$ digits(var_n)$ -> Next".toList).content := by
    decide +kernel
  ⟨⟨assembled, again, differs, unflagged⟩,
    rules_of_differsInCase differs (by decide +kernel) (by decide +kernel) unflagged assembled
      again⟩

end Statement

end LineTemplate
