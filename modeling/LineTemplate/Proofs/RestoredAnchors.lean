import LineTemplate.Proofs.StatementEnds

/-!
Contract: which rules end with the anchor that their line ends with.

Owns:
- bodies that end with one anchor, and that closing a body makes it one of them;
- `Statement.rule_endsWithOneAnchor_iff`: a body ends so exactly if the content ends with
  an anchor and no white space behind it, or a call ends the line.

Does not own: what else is in a rule.
-/

namespace LineTemplate

open Literal

/-- A text ends with an anchor, and before that with none. -/
structure Literal.EndsWithOneAnchor (text : Text) : Prop where
  anchored : endsWithAnchor text = true
  single : endsWithAnchor text.dropLast = false

theorem Literal.EndsPlainly.endsWithOneAnchor {text : Text} (plain : EndsPlainly text) :
    EndsWithOneAnchor (text ++ ['$']) :=
  ⟨plain.open_, by rw [List.dropLast_concat]; exact plain.unanchored⟩

namespace Statement

/-! ### Finished bodies -/

/-- The dollar sign that is left has no anchor before it. -/
theorem not_anchorLeads_of_dropSurplusAnchors {reversed before : Text}
    (dropped : dropSurplusAnchors reversed = '$' :: before) : anchorLeads before = false := by
  induction reversed with
  | nil => cases dropped
  | cons first rest inductionHypothesis =>
      unfold dropSurplusAnchors at dropped
      split at dropped
      · rename_i more same
        cases same
        split at dropped
        · exact inductionHypothesis dropped
        · rename_i single
          cases dropped
          simpa using single
      · rename_i other
        exact absurd dropped (other before)

/-- A closed body ends with one anchor, also if the body had several. -/
theorem endsWithOneAnchor_anchorEnd_of_anchored {body : Text}
    (anchored : endsWithAnchor body = true) : EndsWithOneAnchor (anchorEnd body) := by
  obtain ⟨count, core, -, dropped, leads⟩ := exists_dropSurplusAnchors_of_anchorLeads anchored
  have closed : anchorEnd body = core.reverse ++ ['$'] := by
    simp [anchorEnd, closeReversed, dropped, leads]
  rw [closed]
  constructor
  · simpa [endsWithAnchor] using leads
  · rw [List.dropLast_concat, endsWithAnchor, List.reverse_reverse]
    exact not_anchorLeads_of_dropSurplusAnchors dropped

theorem anchorEnd_of_endsPlainly {body : Text} (plain : EndsPlainly body) :
    anchorEnd body = body ++ ['$'] := by
  rcases anchorEnd_cases body with ⟨anchored, -⟩ | ⟨-, closed⟩
  · rw [plain.unanchored] at anchored
    cases anchored
  · exact closed

theorem endsPlainly_anchorStart {body : Text} (plain : EndsPlainly body) :
    EndsPlainly (anchorStart body) where
  open_ := by
    rw [← anchorStart_append_dollar, endsWithAnchor_anchorStart]
    exact plain.open_
  unanchored := by
    rw [endsWithAnchor_anchorStart]
    exact plain.unanchored

/-- An anchor behind a body that ends plainly is the one that the finished body ends with. -/
theorem endsWithOneAnchor_anchorStart_concat {body : Text} (plain : EndsPlainly body) :
    EndsWithOneAnchor (anchorStart (body ++ ['$'])) := by
  rw [anchorStart_append_dollar]
  exact (endsPlainly_anchorStart plain).endsWithOneAnchor

/-- Where the content ends with an anchor, so does the finished body, and with one only. -/
theorem endsWithOneAnchor_finishBody {line : Line} {body : Text}
    (anchored : endsWithAnchor line.content = true)
    (ends : endsWithAnchor body = true ∨ EndsPlainly body) :
    EndsWithOneAnchor (finishBody line body) := by
  have closed : finishBody line body = anchorEnd (anchorStart body) := if_pos anchored
  rw [closed]
  rcases ends with whole | plain
  · exact endsWithOneAnchor_anchorEnd_of_anchored (by rwa [endsWithAnchor_anchorStart])
  · have started := endsPlainly_anchorStart plain
    rw [anchorEnd_of_endsPlainly started]
    exact started.endsWithOneAnchor

end Statement

/-! ### Rules -/

/-- The anchor at the end of a line is kept: the content ends with it, or the last call
of the line is written down as one. -/
inductive Line.KeepsAnchor (judge : PatternJudge) (line : Line) : Prop
  | content (anchored : endsWithAnchor line.content = true)
  | call (expanded : ¬line.IsVerbatim judge) (ends : line.EndsByCall)

namespace Statement

variable {judge : PatternJudge}

theorem endsWithOneAnchor_finishBody_iff {line : Line} {expansion : Expansion}
    (expanded : expandWith judge line.content line.ignoreCase = .ok expansion) :
    EndsWithOneAnchor (finishBody line (bodyOf judge line expansion)) ↔
      line.KeepsAnchor judge := by
  obtain ⟨plain, ended⟩ := endsPlainly_of_expandWith expanded
  cases anchored : endsWithAnchor line.content with
  | true =>
      refine iff_of_true (endsWithOneAnchor_finishBody anchored ?_) (.content anchored)
      rcases bodyOf_cases expanded with ⟨-, same⟩ | ⟨-, same⟩ <;> rw [same]
      · left
        rwa [Line.flaggedContent, endsWithAnchor_flagText]
      · by_cases closed : line.EndsByCall
        · obtain ⟨front, text, ends⟩ := ended closed
          rw [text]
          exact .inl ends.open_
        · exact .inr (plain closed)
  | false =>
      have started : finishBody line (bodyOf judge line expansion) =
          anchorStart (bodyOf judge line expansion) := by
        rw [finishBody, anchored, if_neg Bool.false_ne_true]
      rw [started]
      rcases bodyOf_cases expanded with ⟨verbatim, same⟩ | ⟨engine, same⟩ <;> rw [same]
      · refine iff_of_false (fun one => ?_) ?_
        · have whole := one.anchored
          rw [endsWithAnchor_anchorStart, Line.flaggedContent, endsWithAnchor_flagText,
            anchored] at whole
          cases whole
        · rintro (whole | ⟨engine, -⟩)
          · rw [anchored] at whole
            cases whole
          · exact engine verbatim
      · by_cases closed : line.EndsByCall
        · obtain ⟨front, text, ends⟩ := ended closed
          rw [text]
          exact iff_of_true (endsWithOneAnchor_anchorStart_concat ends) (.call engine closed)
        · refine iff_of_false (fun one => ?_) ?_
          · have whole := one.anchored
            rw [endsWithAnchor_anchorStart, (plain closed).unanchored] at whole
            cases whole
          · rintro (whole | ⟨-, ends⟩)
            · rw [anchored] at whole
              cases whole
            · exact closed ends

/-- A rule that a line is made into ends with one anchor before its directive exactly if
the line keeps the anchor. -/
theorem rule_endsWithOneAnchor_iff {raw : Text} {statement : Statement}
    (assembled : assembleWith judge (expandWith judge) raw = .ok statement)
    (isRule : statement.kind = .rule) (unfinished : (Line.parse raw).isAssembled = false) :
    ∃ body, statement.text = Line.indentation ++ body ++ directiveText (Line.parse raw) ∧
      (EndsWithOneAnchor body ↔ (Line.parse raw).KeepsAnchor judge) := by
  obtain ⟨expansion, expanded, rfl⟩ := exists_expansion_of_needsEngine assembled
    (needsEngine_of_rule assembled isRule unfinished)
  exact ⟨finishBody (Line.parse raw) (bodyOf judge (Line.parse raw) expansion), rfl,
    endsWithOneAnchor_finishBody_iff expanded⟩

/-- The anchor behind a variable is taken off the content and put back. -/
theorem rule_endsWithOneAnchor_sample_line :
    (assembleWith Pattern.judge (expandWith Pattern.judge) "vlan digits(var_id) $ -> Next".toList =
          .ok ⟨.rule, "  ^vlan $\x7bid\x7d$ -> Next".toList,
            [⟨"id".toList, "\\d+".toList, []⟩]⟩ ∧
        (Line.parse "vlan digits(var_id) $ -> Next".toList).isAssembled = false) ∧
      ∃ body, "  ^vlan $\x7bid\x7d$ -> Next".toList = Line.indentation ++ body ++
          directiveText (Line.parse "vlan digits(var_id) $ -> Next".toList) ∧
        (EndsWithOneAnchor body ↔
          (Line.parse "vlan digits(var_id) $ -> Next".toList).KeepsAnchor Pattern.judge) :=
  have assembled : assembleWith Pattern.judge (expandWith Pattern.judge)
      "vlan digits(var_id) $ -> Next".toList =
        .ok ⟨.rule, "  ^vlan $\x7bid\x7d$ -> Next".toList,
          [⟨"id".toList, "\\d+".toList, []⟩]⟩ :=
    eq_ok_of_toOption (by decide +kernel)
  have unfinished : (Line.parse "vlan digits(var_id) $ -> Next".toList).isAssembled = false := by
    decide +kernel
  ⟨⟨assembled, unfinished⟩, rule_endsWithOneAnchor_iff assembled rfl unfinished⟩

/-- White space behind the anchor hides it from the finishing, which does not put it back. -/
theorem anchor_before_space_lost :
    assemble "vlan id$ ".toList = .ok ⟨.rule, "  ^vlan id".toList, []⟩ ∧
      (Line.parse "vlan id$ ".toList).isAssembled = false ∧
      endsWithAnchor (Text.trimEnd (Line.parse "vlan id$ ".toList).content) = true ∧
      directiveText (Line.parse "vlan id$ ".toList) = [] ∧
      "  ^vlan id".toList = Line.indentation ++ "^vlan id".toList ∧
      ¬EndsWithOneAnchor "^vlan id".toList := by
  refine ⟨eq_ok_of_toOption (by decide +kernel), by decide +kernel, by decide +kernel,
    by decide +kernel, rfl, fun one => ?_⟩
  exact absurd one.anchored (by decide)

end Statement

end LineTemplate
