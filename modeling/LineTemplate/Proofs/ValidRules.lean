import LineTemplate.Proofs.ExpandedRules
import LineTemplate.Proofs.Reassembly

/-!
Contract: which rules are regular expressions.

Owns:
- the lines whose content is written down as it is, and those among them that the anchor
  in front spoils;
- that every other rule that a line is made into is a regular expression, once groups
  stand in the place of its references.

Does not own: the rules that are finished already.
-/

namespace LineTemplate

open PatternReader

namespace Line

/-- The lines whose content is written down as it is: nothing is captured, and the
content is itself accepted as a regular expression and has no white space inside. -/
structure IsVerbatim (judge : PatternJudge) (line : Line) : Prop where
  uncaptured : ∃ text, expandWith judge line.content line.ignoreCase = .ok (.plain text)
  accepted : judge.accepts line.content = true
  solid : Statement.hasInnerBlank line.content = false

/-- The content behind the case flag of the line. -/
def flaggedContent (line : Line) : Text := flagText line.ignoreCase ++ line.content

/-- The lines whose content is no regular expression any more with the anchor in
front. -/
inductive IsSpoiled (line : Line) : Prop where
  /-- The anchor changes places with a case flag and is repeated, so that the flag would
  be. -/
  | repeatedAnchor {rest : Text} (flagged : line.flaggedContent = ignoreCaseFlag ++ '^' :: rest)
      (repeated : ¬Settles rest)
  /-- The anchor is put in front and makes the content nested too deeply. -/
  | nesting {anchored : Pattern} (unanchored : ¬Statement.BeginsAnchored line.flaggedContent)
      (read : Pattern.read? ('^' :: line.content) = some anchored)
      (deep : Pattern.depthLimit < anchored.depth .outside)

end Line

namespace Statement

/-! ### Contents that are written down -/

/-- Closing the body of a content does not change whether it is a regular expression. -/
theorem exists_alike_finishBody {line : Line} {pattern : Pattern}
    (read : Pattern.read? (anchorStart line.flaggedContent) = some pattern) :
    ∃ finished, Pattern.read? (finishBody line line.flaggedContent) = some finished ∧
      pattern.Alike finished := by
  unfold finishBody
  dsimp only
  split
  · rename_i anchored
    have leads : Literal.endsWithAnchor (anchorStart line.flaggedContent) = true := by
      rw [endsWithAnchor_anchorStart, Line.flaggedContent, endsWithAnchor_flagText]
      exact anchored
    rcases anchorEnd_cases (anchorStart line.flaggedContent) with
      ⟨-, core, count, same, closed⟩ | ⟨unled, -⟩
    · rw [same] at read
      rw [closed]
      exact exists_alike_of_dollars read
    · rw [leads] at unled
      cases unled
  · exact ⟨pattern, read, .refl pattern⟩

theorem isValid_finishBody_iff {line : Line} {pattern : Pattern}
    (read : Pattern.read? (anchorStart line.flaggedContent) = some pattern) :
    Pattern.IsValid (finishBody line line.flaggedContent) ↔ pattern.isProper = true := by
  obtain ⟨finished, whole, alike⟩ := exists_alike_finishBody read
  constructor
  · rintro ⟨other, again, proper⟩
    rw [whole] at again
    cases again
    rw [alike.isProper_eq, proper]
  · exact fun proper => alike.isValid proper whole

/-- Behind an anchor that changes places with the case flag, the content is a regular
expression unless the anchor is repeated. -/
theorem isValid_finishBody_moved {line : Line} {rest : Text}
    (valid : Pattern.IsValid line.content)
    (flagged : line.flaggedContent = ignoreCaseFlag ++ '^' :: rest) :
    Pattern.IsValid (finishBody line line.flaggedContent) ↔ Settles rest := by
  obtain ⟨pattern, read, proper⟩ := valid
  have started : anchorStart line.flaggedContent = '^' :: (ignoreCaseFlag ++ rest) := by
    rw [flagged, anchorStart_flag]
  by_cases settled : Settles rest
  · refine iff_of_true ?_ settled
    obtain ⟨moved, movedRead, alike⟩ : ∃ moved,
        Pattern.read? ('^' :: (ignoreCaseFlag ++ rest)) = some moved ∧ pattern.Alike moved := by
      cases flag : line.ignoreCase with
      | true =>
          rw [Line.flaggedContent, flag] at flagged
          rw [List.append_cancel_left flagged] at read
          exact exists_alike_flagText true settled read
      | false =>
          rw [Line.flaggedContent, flag] at flagged
          have content : line.content = ignoreCaseFlag ++ '^' :: rest := flagged
          rw [content] at read
          exact exists_alike_moved settled read
    rw [isValid_finishBody_iff (by rw [started]; exact movedRead), ← alike.isProper_eq, proper]
  · refine iff_of_false ?_ settled
    rintro ⟨pattern, finished, -⟩
    obtain ⟨first, more, rfl⟩ : ∃ first more, rest = first :: more := by
      cases rest with
      | nil => exact absurd settles_nil settled
      | cons first more => exact ⟨first, more, rfl⟩
    have solid : first ≠ '$' := by
      rintro rfl
      exact settled (settles_cons more (by decide))
    obtain ⟨behind, whole⟩ :=
      exists_finishBody_cons line ('^' :: ignoreCaseFlag) started solid
    have unsettled : ¬Settles (first :: behind) := by simpa [Settles] using settled
    rw [whole] at finished
    rw [show '^' :: ignoreCaseFlag ++ first :: behind =
      '^' :: (ignoreCaseFlag ++ first :: behind) from rfl, read?_flag_eq_none unsettled] at finished
    cases finished

/-- With the anchor put in front, the content is a regular expression unless it is then
nested too deeply. -/
theorem isValid_finishBody_anchored {line : Line} {pattern : Pattern}
    (read : Pattern.read? line.content = some pattern) (proper : pattern.isProper = true)
    (unanchored : ¬BeginsAnchored line.flaggedContent) :
    ∃ anchored, Pattern.read? ('^' :: line.content) = some anchored ∧
      (Pattern.IsValid (finishBody line line.flaggedContent) ↔
        anchored.depth .outside ≤ Pattern.depthLimit) := by
  obtain ⟨anchored, anchoredRead, captures, allowed⟩ := exists_read?_lineStart read
  obtain ⟨flagged, flaggedRead, alike⟩ :=
    exists_alike_flagText line.ignoreCase (settles_of_read? read) anchoredRead
  refine ⟨anchored, anchoredRead, ?_⟩
  have started : anchorStart line.flaggedContent = '^' :: line.flaggedContent :=
    anchorStart_of_not_beginsAnchored unanchored
  rw [isValid_finishBody_iff (by rw [started]; exact flaggedRead), ← alike.isProper_eq]
  simp only [Pattern.isProper, Bool.and_eq_true, decide_eq_true_eq] at proper
  have distinct : anchored.captureNames.Nodup := by
    rw [Pattern.captureNames, captures]
    exact proper.1.2
  have whole : anchored.isAllowed true = true := by rw [allowed, proper.2]
  simp [Pattern.isProper, distinct, whole]

/-- A content that is written down as it is stays a regular expression, unless the
anchor spoils it. -/
theorem isValid_finishBody_verbatim {line : Line} (valid : Pattern.IsValid line.content) :
    Pattern.IsValid (finishBody line line.flaggedContent) ↔ ¬line.IsSpoiled := by
  by_cases anchored : BeginsAnchored line.flaggedContent
  · rcases exists_of_beginsAnchored anchored with ⟨rest, flagged⟩ | ⟨rest, first⟩
    · rw [isValid_finishBody_moved valid flagged]
      constructor
      · rintro settled (⟨same, repeated⟩ | ⟨unanchored, -, -⟩)
        · rw [flagged] at same
          cases List.append_cancel_left same
          exact repeated settled
        · exact unanchored anchored
      · intro whole
        by_contra unsettled
        exact whole (.repeatedAnchor flagged unsettled)
    · refine iff_of_true ?_ ?_
      · have content : line.flaggedContent = line.content := by
          cases flag : line.ignoreCase with
          | false => rw [Line.flaggedContent, flag]; rfl
          | true =>
              rw [Line.flaggedContent, flag] at first
              cases first
        obtain ⟨pattern, read, proper⟩ := valid
        have started : Pattern.read? (anchorStart line.flaggedContent) = some pattern := by
          rw [first, anchorStart_lineStart, ← first, content, read]
        rw [isValid_finishBody_iff started, proper]
      · rintro (⟨same, -⟩ | ⟨unanchored, -, -⟩)
        · rw [first] at same
          cases same
        · exact unanchored anchored
  · obtain ⟨pattern, read, proper⟩ := valid
    obtain ⟨anchoredPattern, anchoredRead, same⟩ := isValid_finishBody_anchored read proper anchored
    rw [same]
    constructor
    · rintro shallow (⟨flagged, -⟩ | ⟨-, again, deep⟩)
      · rw [flagged] at anchored
        exact anchored (.inl ⟨_, List.append_assoc ignoreCaseFlag ['^'] _⟩)
      · rw [anchoredRead] at again
        cases again
        omega
    · intro whole
      by_contra deep
      exact whole (.nesting anchored anchoredRead (by omega))

/-! ### Rules -/

/-- A rule that a line is made into is a regular expression between its indentation and
its directive, once groups stand in the place of its references; unless its content is
written down as it is and spoiled by the anchor. -/
theorem rule_valid_iff {judge : PatternJudge} (validOnly : judge.AcceptsValidOnly) {raw : Text}
    {statement : Statement} (assembled : assembleBy judge raw = .ok statement)
    (isRule : statement.kind = .rule)
    (unfinished : (Line.parse raw).isAssembled = false) :
    ∃ body, statement.text = Line.indentation ++ body ++ directiveText (Line.parse raw) ∧
      (Pattern.IsValid (withGroups statement.captured body) ↔
        ¬((Line.parse raw).IsVerbatim judge ∧ (Line.parse raw).IsSpoiled)) := by
  rcases assembleWith_eq_ok assembled with ⟨finished, given⟩ | ⟨expansion, -, expanded, rfl⟩
  · rcases given with rfl | rfl | ⟨rfl, rest, rfl⟩
    · cases isRule
    · cases isRule
    · obtain ⟨notBlank, notWord⟩ := Line.kind_ruleStart rest
      rw [Line.needsEngine_eq_not_isAssembled notBlank notWord, unfinished] at finished
      cases finished
  · refine ⟨finishBody (Line.parse raw) (bodyOf judge (Line.parse raw) expansion), rfl, ?_⟩
    by_cases verbatim : (Line.parse raw).IsVerbatim judge
    · obtain ⟨text, plain⟩ := verbatim.uncaptured
      rw [expanded] at plain
      cases plain
      have body : bodyOf judge (Line.parse raw) (.plain text) =
          (Line.parse raw).flaggedContent := by
        simp [bodyOf, plainBody, verbatim.accepted, verbatim.solid, Line.flaggedContent]
      rw [Expansion.captured, withGroups_nil, body,
        isValid_finishBody_verbatim (validOnly _ verbatim.accepted)]
      simp [verbatim]
    · have body : bodyOf judge (Line.parse raw) expansion = expansion.text := by
        cases expansion with
        | captures captured text => rfl
        | plain text =>
            rw [bodyOf, plainBody, if_neg]
            · rfl
            · intro both
              simp only [Bool.and_eq_true, Bool.not_eq_true'] at both
              exact verbatim ⟨⟨text, expanded⟩, both.1, both.2⟩
      rw [body]
      exact iff_of_true (isValid_finishBody expanded) fun both => verbatim both.1

/-- The rule of a line with a variable is a regular expression. -/
theorem rule_valid_sample_line :
    (Pattern.judge.AcceptsValidOnly ∧
        assembleBy Pattern.judge "vlan digits(var_id) up".toList =
          .ok ⟨.rule, "  ^vlan $\x7bid\x7d up".toList, [⟨"id".toList, "\\d+".toList, []⟩]⟩ ∧
        (Line.parse "vlan digits(var_id) up".toList).isAssembled = false) ∧
      ∃ body, "  ^vlan $\x7bid\x7d up".toList =
          Line.indentation ++ body ++ directiveText (Line.parse "vlan digits(var_id) up".toList) ∧
        (Pattern.IsValid (withGroups [⟨"id".toList, "\\d+".toList, []⟩] body) ↔
          ¬((Line.parse "vlan digits(var_id) up".toList).IsVerbatim Pattern.judge ∧
            (Line.parse "vlan digits(var_id) up".toList).IsSpoiled)) :=
  have validOnly := Pattern.acceptsValidOnly_judge
  have assembled : assembleBy Pattern.judge "vlan digits(var_id) up".toList =
      .ok ⟨.rule, "  ^vlan $\x7bid\x7d up".toList, [⟨"id".toList, "\\d+".toList, []⟩]⟩ :=
    eq_ok_of_toOption (by decide +kernel)
  have unfinished : (Line.parse "vlan digits(var_id) up".toList).isAssembled = false := by
    decide +kernel
  ⟨⟨validOnly, assembled, unfinished⟩, rule_valid_iff validOnly assembled rfl unfinished⟩

/-- A flag before a repeated anchor is moved between the anchor and its repetition: the
content is a regular expression, the rule is none. -/
theorem moved_flag_invalid :
    assemble "(?i)^*".toList = .ok ⟨.rule, "  ^(?i)*".toList, []⟩ ∧
      (Line.parse "(?i)^*".toList).isAssembled = false ∧
      directiveText (Line.parse "(?i)^*".toList) = [] ∧
      Pattern.IsValid "(?i)^*".toList ∧
      ¬Pattern.IsValid (withGroups [] "^(?i)*".toList) := by
  refine ⟨eq_ok_of_toOption (by decide +kernel), by decide +kernel, by decide +kernel,
    Pattern.acceptsValidOnly_judge _ (by decide +kernel), ?_⟩
  have repeated : ¬Settles ['*'] := by simp [Settles, startsRepetition]
  have written : "^(?i)*".toList = '^' :: (ignoreCaseFlag ++ ['*']) := by decide
  rintro ⟨pattern, read, -⟩
  rw [withGroups_nil, written, read?_flag_eq_none repeated] at read
  cases read

end Statement

end LineTemplate
