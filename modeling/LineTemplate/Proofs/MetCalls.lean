import LineTemplate.Proofs.ChangedArguments
import LineTemplate.Proofs.LongerLines
import LineTemplate.Proofs.Probes

/-!
Contract: the test for calls against the expansion of a content.

Owns:
- that the test, which is asked about a content before its end is trimmed, finds a call exactly
  if the expansion of the content meets one, and so which lines pass for finished rules;
- that a call that is met does not stay literal;
- what a content without calls expands to, for any judge and for one that checks sizes;
- `expandWith_agreesOnCalls`: the test and the expansion agree on every content.

Does not own: what is made of the calls that are met.
-/

namespace LineTemplate

open Literal (withoutAnchor)

/-! ### Calls that are met -/

/-- Trimming the end of a content takes no call from it and gives it none. -/
theorem hasKeywordCall_withoutAnchor (content : Text) :
    hasKeywordCall (withoutAnchor content) = hasKeywordCall content := by
  -- What is dropped closes no parenthesis, so no call reaches into it, not even an unknown one.
  obtain ⟨dropped, whole, open_⟩ := Literal.exists_withoutAnchor_append content
  conv_rhs => rw [whole]
  exact (LinePiece.callsKeyword_append_of_not_mem false (withoutAnchor content) open_).symm

theorem hasKeywordCall_iff_met (content : Text) :
    hasKeywordCall content = true ↔
      (AnnotatedText.ofText (withoutAnchor content)).calls ≠ [] := by
  rw [← hasKeywordCall_withoutAnchor, AnnotatedText.hasKeywordCall_eq, Bool.not_eq_true',
    List.isEmpty_eq_false_iff]

theorem ExpandedPart.ne_literal_of_ofCall {call : KeywordCall} {part : ExpandedPart}
    (expanded : ofCall call = .ok part) (text : Text) : part ≠ .literal text := by
  obtain ⟨_, -, ⟨-, rfl⟩ | ⟨-, rfl⟩ | ⟨-, _, -, -, rfl⟩⟩ := ofCall_eq_ok expanded
  · exact ExpandedPart.noConfusion
  · exact ExpandedPart.noConfusion
  · exact ExpandedPart.noConfusion

/-- A line that is expanded meets a call exactly if not all of it stays literal. -/
theorem AnnotatedText.calls_ne_nil_iff_of_expand {annotated : AnnotatedText}
    {parts : List ExpandedPart} (expanded : annotated.expand = .ok parts) :
    annotated.calls ≠ [] ↔ ∃ part ∈ parts, ∀ text, part ≠ .literal text := by
  obtain ⟨leading, calls⟩ := annotated
  cases calls with
  | nil =>
      cases expanded
      refine iff_of_false (not_not_intro rfl) ?_
      rintro ⟨part, member, solid⟩
      exact solid _ (List.mem_singleton.1 member)
  | cons call calls =>
      obtain ⟨-, part, rest, made, -, -, rfl⟩ := expandFrom_cons_eq_ok_iff.1 expanded
      exact iff_of_true (List.cons_ne_nil call calls)
        ⟨part, by simp, ExpandedPart.ne_literal_of_ofCall made⟩

/-- A line passes for a finished rule exactly if it begins as one and its content, if it were
expanded, would meet no call. -/
theorem Line.isAssembled_iff_unmet (line : Line) :
    line.isAssembled = true ↔
      ruleStart <+: line.text ∧
        (AnnotatedText.ofText (withoutAnchor line.content)).calls = [] := by
  have unmet : hasKeywordCall line.content = false ↔
      (AnnotatedText.ofText (withoutAnchor line.content)).calls = [] := by
    rw [← Bool.not_eq_true, hasKeywordCall_iff_met, not_not]
  rw [isAssembled, Bool.and_eq_true, Bool.not_eq_true', unmet]
  exact and_congr_left fun _ => List.isPrefixOf_iff_prefix

/-! ### Contents without calls -/

/-- A content as literal text, behind the case flag where case is ignored. -/
def literalBody (content : Text) (ignoreCase : Bool) : Text :=
  flagText ignoreCase ++ Literal.encode (withoutAnchor content)

section Quiet

variable {content : Text} (quiet : hasKeywordCall content = false)

include quiet

/-- Without calls, the only part of a content is its text. -/
theorem expand_of_not_hasKeywordCall :
    (AnnotatedText.ofText (withoutAnchor content)).expand =
      .ok [.literal (withoutAnchor content)] := by
  rw [← hasKeywordCall_withoutAnchor] at quiet
  rw [AnnotatedText.ofText_of_not_hasKeywordCall quiet]
  rfl

/-- Without calls, only the judge can keep a content from becoming literal text. -/
theorem expandWith_of_not_hasKeywordCall (judge : PatternJudge) (ignoreCase : Bool) :
    expandWith judge content ignoreCase =
      match judge (literalBody content ignoreCase) with
      | none => .ok (.plain (literalBody content ignoreCase))
      | some reason => .error (.invalidPattern (literalBody content ignoreCase) reason) := by
  have statement : [ExpandedPart.literal (withoutAnchor content)].flatMap ExpandedPart.statement =
      Literal.encode (withoutAnchor content) := List.flatMap_singleton _ _
  have probe : [ExpandedPart.literal (withoutAnchor content)].flatMap ExpandedPart.probe =
      Literal.encode (withoutAnchor content) := List.flatMap_singleton _ _
  rw [expandWith, expand_of_not_hasKeywordCall quiet]
  dsimp only [bind, Except.bind]
  rw [statement, probe, ← literalBody]
  cases judge (literalBody content ignoreCase) <;> rfl

end Quiet

/-- Literal text is a regular expression. -/
theorem isValid_literalBody (content : Text) (ignoreCase : Bool) :
    Pattern.IsValid (literalBody content ignoreCase) := by
  have known : ∀ call ∈ (⟨withoutAnchor content, []⟩ : AnnotatedText).calls,
      call.keyword ∈ Keyword.all := fun call member => absurd member List.not_mem_nil
  have expanded : (⟨withoutAnchor content, []⟩ : AnnotatedText).expand =
      .ok [.literal (withoutAnchor content)] := rfl
  obtain ⟨pattern, reads⟩ := exists_probeReads known expanded ignoreCase
  have read := reads.read
  rw [List.flatMap_singleton] at read
  exact ⟨pattern, read, reads.proper⟩

/-! ### Agreement -/

/-- How an expansion agrees with the test for calls. The test is asked about the content before
its end is trimmed. -/
structure AgreesOnCalls (content : Text) (ignoreCase : Bool) (engine : PatternJudge → Engine) :
    Prop where
  /-- What is trimmed is literal text behind the calls, which are otherwise the same. -/
  alike : ∃ trimmed, content = withoutAnchor content ++ trimmed ∧
    AnnotatedText.ofText content =
      .append (AnnotatedText.ofText (withoutAnchor content)).leading
        (AnnotatedText.ofText (withoutAnchor content)).calls trimmed
  /-- The test finds a call exactly if the expansion meets one. -/
  met : hasKeywordCall content = true ↔
    (AnnotatedText.ofText (withoutAnchor content)).calls ≠ []
  /-- A call that is met does not stay literal, if the calls are in order. -/
  shown : ∀ parts, (AnnotatedText.ofText (withoutAnchor content)).expand = .ok parts →
    (hasKeywordCall content = true ↔ ∃ part ∈ parts, ∀ text, part ≠ .literal text)
  /-- Without calls, the whole of a content becomes literal text, calls of unknown names
  included, if the judge accepts that. -/
  literal : hasKeywordCall content = false → ∀ judge : PatternJudge,
    engine judge content ignoreCase =
      match judge (literalBody content ignoreCase) with
      | none => .ok (.plain (literalBody content ignoreCase))
      | some reason => .error (.invalidPattern (literalBody content ignoreCase) reason)
  /-- It is a regular expression, and a judge that checks sizes accepts it unless it is too
  large. -/
  sized : hasKeywordCall content = false →
    ∃ pattern, Pattern.read? (literalBody content ignoreCase) = some pattern ∧
      pattern.isProper = true ∧
      ∀ (judge : PatternJudge) (Fits : Pattern → Prop), judge.ChecksSize Fits →
        (Fits pattern →
          engine judge content ignoreCase = .ok (.plain (literalBody content ignoreCase))) ∧
        (¬Fits pattern →
          engine judge content ignoreCase =
            .error (.invalidPattern (literalBody content ignoreCase)
              Pattern.Refusal.tooLarge.message))

/-- The test for calls and the expansion agree on every content. -/
theorem expandWith_agreesOnCalls (content : Text) (ignoreCase : Bool) :
    AgreesOnCalls content ignoreCase expandWith where
  alike := by
    obtain ⟨trimmed, whole, open_⟩ := Literal.exists_withoutAnchor_append content
    refine ⟨trimmed, whole, ?_⟩
    conv_lhs => rw [whole]
    exact AnnotatedText.ofText_append _ open_
  met := hasKeywordCall_iff_met content
  shown := fun _ expanded =>
    (hasKeywordCall_iff_met content).trans (AnnotatedText.calls_ne_nil_iff_of_expand expanded)
  literal := fun quiet judge => expandWith_of_not_hasKeywordCall quiet judge ignoreCase
  sized := by
    intro quiet
    obtain ⟨pattern, read, proper⟩ := isValid_literalBody content ignoreCase
    refine ⟨pattern, read, proper, fun judge Fits sized => ?_⟩
    rw [expandWith_of_not_hasKeywordCall quiet]
    refine ⟨fun fits => ?_, fun tooLarge => ?_⟩
    · rw [sized.accepts read proper fits]
    · rw [sized.refuses read proper tooLarge]

-- A name that is not known and a call that is not closed are literal, and trimming the end
-- closes none.
example : expandWith Pattern.judge "odd(%)\tdigits(x $ ".toList true =
    .ok (.plain "(?i)odd\\(%\\)\\s+digits\\(x".toList) :=
  eq_ok_of_toOption (by decide +kernel)

end LineTemplate
