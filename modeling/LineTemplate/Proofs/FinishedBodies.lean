import LineTemplate.Proofs.RestoredAnchors

/-!
Contract: what finishing makes of the body of a line, whatever engine expanded it.

Owns:
- the backslashes that a text ends with, which decide whether a dollar sign behind it is an
  anchor;
- `Statement.GetsAnchor` and `Statement.DiffersInAnchors`, what finishing may do at the
  beginning and at the end of a body;
- `Statement.isFinished_of_engine`: the law of finishing for any engine and judge.

Does not own: what an engine makes of a content.
-/

namespace LineTemplate

namespace Literal

/-- How many backslashes a text ends with. -/
def trailingBackslashes (text : Text) : Nat := (text.reverse.takeWhile (· = '\\')).length

/-- Behind an even number of backslashes, and only there, a dollar sign is an anchor. -/
theorem endsWithAnchor_concat_dollar (text : Text) :
    endsWithAnchor (text ++ ['$']) = decide (trailingBackslashes text % 2 = 0) := by
  rw [endsWithAnchor, List.reverse_concat, anchorLeads, trailingBackslashes]

/-- A text that escapes nothing behind it ends with an anchor or plainly. -/
theorem anchored_or_endsPlainly {text : Text} (even : trailingBackslashes text % 2 = 0) :
    endsWithAnchor text = true ∨ EndsPlainly text := by
  cases anchored : endsWithAnchor text with
  | true => exact .inl rfl
  | false =>
      refine .inr ⟨?_, anchored⟩
      rw [endsWithAnchor_concat_dollar, decide_eq_true_eq]
      exact even

end Literal

open Literal

namespace Statement

/-! ### Both ends of a body -/

/-- What a body becomes at its beginning: a case flag before an anchor changes places with
it, an anchor that stands first is left, and any other body gets an anchor in front. -/
inductive GetsAnchor : (body anchored : Text) → Prop
  | moved (rest : Text) :
      GetsAnchor (ignoreCaseFlag ++ '^' :: rest) ('^' :: (ignoreCaseFlag ++ rest))
  | kept (rest : Text) : GetsAnchor ('^' :: rest) ('^' :: rest)
  | added {body : Text} (unanchored : ¬BeginsAnchored body) : GetsAnchor body ('^' :: body)

theorem getsAnchor_anchorStart (body : Text) : GetsAnchor body (anchorStart body) := by
  by_cases anchored : BeginsAnchored body
  · rcases exists_of_beginsAnchored anchored with ⟨rest, rfl⟩ | ⟨rest, rfl⟩
    · rw [anchorStart_flag]
      exact .moved rest
    · rw [anchorStart_lineStart]
      exact .kept rest
  · rw [anchorStart_of_not_beginsAnchored anchored]
    exact .added anchored

/-- Two bodies that differ in the dollar signs at their end only: the second one has some
fewer, or one more. -/
inductive DiffersInAnchors : (given closed : Text) → Prop
  | removed (closed : Text) (count : Nat) :
      DiffersInAnchors (closed ++ List.replicate count '$') closed
  | added (given : Text) : DiffersInAnchors given (given ++ ['$'])

theorem differsInAnchors_anchorEnd (body : Text) : DiffersInAnchors body (anchorEnd body) := by
  rcases anchorEnd_cases body with ⟨-, core, count, given, closed⟩ | ⟨-, closed⟩
  · have split : body = (core ++ ['$']) ++ List.replicate count '$' := by
      rw [given, List.append_assoc, List.singleton_append]
    rw [closed, split]
    exact .removed _ count
  · rw [closed]
    exact .added body

/-! ### Finished bodies -/

/-- What the finished body of a line has in common with the body that it was made of. It
begins with an anchor in any case. -/
structure IsFinished (line : Line) (body finished : Text) : Prop where
  begins : ['^'] <+: finished
  /-- Behind a content with an anchor, the body ends with one anchor. -/
  closed : endsWithAnchor line.content = true → EndsWithOneAnchor finished ∧
    ∃ anchored, GetsAnchor body anchored ∧ DiffersInAnchors anchored finished
  /-- Behind any other content, the end of the body is left as it is. -/
  left : endsWithAnchor line.content = false → GetsAnchor body finished

/-- A body that escapes nothing behind it is finished properly. -/
theorem isFinished_finishBody {line : Line} {body : Text}
    (ends : endsWithAnchor line.content = true → endsWithAnchor body = true ∨ EndsPlainly body) :
    IsFinished line body (finishBody line body) where
  begins := by
    obtain ⟨rest, same⟩ := exists_finishBody line body
    exact ⟨rest, same.symm⟩
  closed := by
    intro anchored
    refine ⟨endsWithOneAnchor_finishBody anchored (ends anchored), anchorStart body,
      getsAnchor_anchorStart body, ?_⟩
    rw [finishBody, if_pos anchored]
    exact differsInAnchors_anchorEnd (anchorStart body)
  left := by
    intro unanchored
    rw [finishBody, unanchored, if_neg Bool.false_ne_true]
    exact getsAnchor_anchorStart body

/-- Whatever an engine gives, the body of its line is the content behind the case flag, or
the text that the engine gave. -/
theorem bodyOf_eq_or (judge : PatternJudge) (line : Line) (expansion : Expansion) :
    bodyOf judge line expansion = line.flaggedContent ∨
      bodyOf judge line expansion = expansion.text := by
  cases expansion with
  | captures captured text => exact .inr rfl
  | plain text =>
      rw [bodyOf, plainBody]
      split
      · exact .inl rfl
      · exact .inr rfl

/-- Whatever engine expands a line, its finished body begins with one anchor more at most.
Behind a content with an anchor it ends with exactly one, and otherwise as the body did. The
text of the engine must not escape what is put behind it. -/
theorem isFinished_of_engine {judge : PatternJudge} {engine : Engine} {raw : Text}
    {expansion : Expansion} (consulted : (Line.parse raw).needsEngine = true)
    (expanded : engine (Line.parse raw).content (Line.parse raw).ignoreCase = .ok expansion)
    (even : trailingBackslashes expansion.text % 2 = 0) :
    ∃ finished,
      assembleWith judge engine raw = .ok ⟨.rule,
        Line.indentation ++ finished ++ directiveText (Line.parse raw), expansion.captured⟩ ∧
      IsFinished (Line.parse raw) (bodyOf judge (Line.parse raw) expansion) finished := by
  refine ⟨finishBody (Line.parse raw) (bodyOf judge (Line.parse raw) expansion), ?_, ?_⟩
  · rw [assembleWith_of_needsEngine consulted, expanded]
    rfl
  · apply isFinished_finishBody
    intro anchored
    rcases bodyOf_eq_or judge (Line.parse raw) expansion with content | text
    · left
      rw [content, Line.flaggedContent, endsWithAnchor_flagText]
      exact anchored
    · rw [text]
      exact anchored_or_endsPlainly even

/-- The engine that gives the same text for every content. -/
def plainEngine (text : Text) : Engine := fun _ _ => .ok (.plain text)

/-- Of the dollar signs that an engine gives, the escaped one stays, and the anchors become
one. The flag that it gives before an anchor goes behind it. -/
theorem isFinished_escaped_dollar :
    ((Line.parse "ab c$ -> Next".toList).needsEngine = true ∧
        trailingBackslashes "(?i)^a\\$$$".toList % 2 = 0 ∧
        assembleWith Pattern.judge (plainEngine "(?i)^a\\$$$".toList) "ab c$ -> Next".toList =
          .ok ⟨.rule, "  ^(?i)a\\$$ -> Next".toList, []⟩) ∧
      ∃ finished,
        assembleWith Pattern.judge (plainEngine "(?i)^a\\$$$".toList) "ab c$ -> Next".toList =
          .ok ⟨.rule, Line.indentation ++ finished ++
            directiveText (Line.parse "ab c$ -> Next".toList), []⟩ ∧
        IsFinished (Line.parse "ab c$ -> Next".toList)
          (bodyOf Pattern.judge (Line.parse "ab c$ -> Next".toList)
            (.plain "(?i)^a\\$$$".toList)) finished :=
  have consulted : (Line.parse "ab c$ -> Next".toList).needsEngine = true := by decide +kernel
  have even : trailingBackslashes "(?i)^a\\$$$".toList % 2 = 0 := by decide
  have expanded : plainEngine "(?i)^a\\$$$".toList (Line.parse "ab c$ -> Next".toList).content
      (Line.parse "ab c$ -> Next".toList).ignoreCase = .ok (.plain "(?i)^a\\$$$".toList) := rfl
  ⟨⟨consulted, even, eq_ok_of_toOption (by decide +kernel)⟩,
    isFinished_of_engine consulted expanded even⟩

end Statement

end LineTemplate
