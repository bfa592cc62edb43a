import LineTemplate.Proofs.FinalAnchors
import LineTemplate.Proofs.FinishedReferences
import LineTemplate.Proofs.FirstAnchors
import LineTemplate.Proofs.Judges
import LineTemplate.Proofs.Probes

/-!
Contract: the finished text of an expansion as a regular expression.

Owns:
- what expanded text cannot begin with;
- that finishing keeps an expansion a regular expression.

Does not own: contents that are written down as they are.
-/

namespace LineTemplate

open PatternReader

/-! ### Regular expressions -/

theorem Pattern.Alike.isValid {pattern other : Pattern} {text : Text} (alike : pattern.Alike other)
    (proper : pattern.isProper = true) (read : Pattern.read? text = some other) :
    Pattern.IsValid text :=
  ⟨other, read, by rw [← alike.isProper_eq, proper]⟩

/-- Of several dollar signs at the end of a regular expression, all but one can be left
out. -/
theorem Pattern.IsValid.of_dollars {text : Text} {count : Nat}
    (valid : IsValid (text ++ '$' :: List.replicate count '$')) : IsValid (text ++ ['$']) := by
  obtain ⟨pattern, read, proper⟩ := valid
  obtain ⟨other, shorter, alike⟩ := exists_alike_of_dollars read
  exact alike.isValid proper shorter

namespace ReadsNames

theorem assertion {c : Char} {place : Assertion} (single : startsRepetition c = false)
    (found : ∀ state rest, step state c rest = some (state.add (.atom (.assertion place)), rest)) :
    ReadsNames [c] [] := by
  refine ⟨[.atom (.assertion place)], ?_, ?_, rfl⟩
  · have item : ReadsItem [c] (.atom (.assertion place)) :=
      .of_step single (fun state more _ => found state more) (by simp)
    exact item.reads
  · rw [List.forall_mem_singleton]
    exact ⟨rfl, rfl, Nat.zero_le 15⟩

theorem lineStart : ReadsNames ['^'] [] := .assertion (by decide) fun _ _ => rfl

theorem lineEnd : ReadsNames ['$'] [] := .assertion (by decide) fun _ _ => rfl

/-- A text that captures no name twice is a regular expression. -/
theorem isValid {text : Text} {names : List Text} (reads : ReadsNames text names)
    (distinct : names.Nodup) : Pattern.IsValid text := by
  obtain ⟨pattern, read, proper, -⟩ := reads.exists_pattern distinct
  exact ⟨pattern, read, proper⟩

end ReadsNames

/-! ### Beginnings -/

/-- Whether a text begins neither with a repetition, nor with a repeated anchor, nor with
flags. -/
def beginsPlainly : Text → Bool
  | [] => true
  | '^' :: rest => rest.head?.all fun c => !startsRepetition c
  | '(' :: '?' :: c :: _ => c = ':' || c = 'P'
  | '(' :: _ => false
  | first :: _ => !startsRepetition first

theorem settles_iff (text : Text) :
    Settles text ↔ (text.head?.all fun c => !startsRepetition c) = true := by
  cases text with
  | nil => simp [Settles]
  | cons first rest => simp [Settles]

theorem settles_of_beginsPlainly {text : Text} (plain : beginsPlainly text = true) :
    Settles text := by
  unfold beginsPlainly at plain
  split at plain
  · exact settles_nil
  · exact settles_cons _ (by decide)
  · exact settles_cons _ (by decide)
  · cases plain
  · exact settles_cons _ (by simpa using plain)

theorem beginsPlainly_append {text more : Text} (first : beginsPlainly text = true)
    (second : beginsPlainly more = true) : beginsPlainly (text ++ more) = true := by
  unfold beginsPlainly at first
  split at first
  · exact second
  · rename_i rest
    cases rest with
    | nil =>
        exact (settles_iff more).1 (settles_of_beginsPlainly second)
    | cons c rest => exact first
  · exact first
  · cases first
  · rename_i c rest notAnchor _ notGroup
    rw [List.cons_append, beginsPlainly]
    · exact first
    · exact notAnchor
    · exact fun _ _ opens => absurd opens notGroup
    · exact notGroup

theorem composes_beginsPlainly : Composes fun text => beginsPlainly text = true :=
  ⟨rfl, beginsPlainly_append⟩

theorem beginsPlainly_escapeChar (c : Char) : beginsPlainly (Literal.escapeChar c) = true := by
  unfold Literal.escapeChar
  split
  · rfl
  · rename_i plain
    have others : c ≠ '^' ∧ c ≠ '(' ∧ startsRepetition c = false := by
      refine ⟨?_, ?_, ?_⟩
      · rintro rfl
        exact plain (by decide)
      · rintro rfl
        exact plain (by decide)
      · by_contra repeats
        simp only [startsRepetition, Bool.not_eq_false, Bool.or_eq_true, decide_eq_true_eq,
          or_assoc] at repeats
        rcases repeats with rfl | rfl | rfl | rfl <;> exact plain (by decide)
    simp [beginsPlainly, others]

theorem beginsPlainly_encode (text : Text) : beginsPlainly (Literal.encode text) = true :=
  composes_beginsPlainly.encode beginsPlainly_escapeChar rfl rfl text

theorem beginsPlainly_pattern {keyword : Keyword} (known : keyword ∈ Keyword.all) :
    beginsPlainly keyword.pattern = true := by
  have checked : ∀ keyword ∈ Keyword.all, beginsPlainly keyword.pattern = true := by decide +kernel
  exact checked keyword known

theorem CallArguments.beginsPlainly_pattern {keyword : Keyword} (known : keyword ∈ Keyword.all)
    (arguments : CallArguments) : beginsPlainly (pattern keyword arguments) = true := by
  cases alternatives : arguments.alternatives.isEmpty with
  | true =>
      rw [pattern, alternatives]
      exact LineTemplate.beginsPlainly_pattern known
  | false =>
      rw [pattern_of_alternatives keyword alternatives]
      rfl

theorem ExpandedPart.beginsPlainly_probe {call : KeywordCall} {part : ExpandedPart}
    (known : call.keyword ∈ Keyword.all) (expanded : ofCall call = .ok part) :
    beginsPlainly part.probe = true := by
  obtain ⟨arguments, -, ⟨-, rfl⟩ | ⟨-, rfl⟩ | ⟨-, captured, -, -, rfl⟩⟩ := ofCall_eq_ok expanded
  · exact LineTemplate.beginsPlainly_pattern known
  · exact CallArguments.beginsPlainly_pattern known arguments
  · rfl

/-- Where expanded text begins with an anchor behind a case flag, the flag is that of the
line and the anchor is not repeated. -/
theorem settles_of_flagText_eq {ignoreCase : Bool} {text rest : Text}
    (plain : beginsPlainly text = true)
    (same : flagText ignoreCase ++ text = ignoreCaseFlag ++ '^' :: rest) : Settles rest := by
  cases ignoreCase with
  | true =>
      have begins : text = '^' :: rest := List.append_cancel_left same
      subst begins
      exact (settles_iff rest).2 plain
  | false =>
      have begins : text = '(' :: '?' :: 'i' :: ')' :: '^' :: rest := same
      subst begins
      cases plain

/-! ### Finished expansions -/

namespace Statement

/-- The anchor in front of expanded text leaves it a regular expression. -/
theorem isValid_anchorStart {captured : List Variable} {ignoreCase : Bool} {body text : Text}
    {names : List Text} (filled : withGroups captured body = flagText ignoreCase ++ text)
    (plain : beginsPlainly text = true) (reads : ReadsNames text names) (distinct : names.Nodup) :
    Pattern.IsValid (withGroups captured (anchorStart body)) := by
  have whole : ReadsNames (withGroups captured body) names := by
    rw [filled]
    exact (ReadsNames.flagText ignoreCase).append reads
  rcases withGroups_anchorStart_cases captured body with ⟨rest, same, moved⟩ | same | same
  · have settled := settles_of_flagText_eq plain (filled.symm.trans same)
    obtain ⟨pattern, read, proper⟩ := whole.isValid distinct
    rw [same] at read
    obtain ⟨other, movedRead, alike⟩ := exists_alike_moved settled read
    rw [moved]
    exact alike.isValid proper movedRead
  · rw [same]
    exact whole.isValid distinct
  · rw [same]
    exact (ReadsNames.lineStart.append whole).isValid distinct

/-- Finished, an expansion is a regular expression. -/
theorem isValid_finishBody {judge : PatternJudge} {line : Line} {expansion : Expansion}
    (expanded : expandWith judge line.content line.ignoreCase = .ok expansion) :
    Pattern.IsValid (withGroups expansion.captured (finishBody line expansion.text)) := by
  obtain ⟨parts, made, -, text, captured⟩ := exists_parts_of_expandWith expanded
  have known : ∀ call ∈ (AnnotatedText.ofText (Literal.withoutAnchor line.content)).calls,
      call.keyword ∈ Keyword.all := fun call member => AnnotatedText.keyword_mem_of_mem_calls member
  have reads : ReadsNames (parts.flatMap ExpandedPart.probe)
      (parts.flatMap ExpandedPart.boundNames) := AnnotatedText.readsNames_of_expandFrom known made
  have plain : beginsPlainly (parts.flatMap ExpandedPart.probe) = true :=
    composes_beginsPlainly.flatMap (AnnotatedText.forall_parts_of_expandFrom beginsPlainly_encode
      (fun call member part => ExpandedPart.beginsPlainly_probe (known call member)) made)
  have distinct := (AnnotatedText.nodup_boundNames_of_expandFrom made).1
  have filled : withGroups expansion.captured expansion.text =
      flagText line.ignoreCase ++ parts.flatMap ExpandedPart.probe := by
    rw [captured, text, withGroups_flagText]
    exact congrArg _ (withGroups_statement known made)
  have started := isValid_anchorStart filled plain reads distinct
  unfold finishBody
  dsimp only
  split
  · rcases anchorEnd_cases (anchorStart expansion.text) with
      ⟨-, core, count, same, closed⟩ | ⟨-, closed⟩
    · rw [same, ← List.replicate_succ, withGroups_append_dollars] at started
      rw [closed]
      exact (withGroups_append_dollars _ core 1).symm ▸ Pattern.IsValid.of_dollars started
    · rw [closed, ← anchorStart_append_dollar]
      have filledDollar : withGroups expansion.captured (expansion.text ++ ['$']) =
          flagText line.ignoreCase ++ (parts.flatMap ExpandedPart.probe ++ ['$']) := by
        rw [← List.append_assoc, ← filled]
        exact withGroups_append_dollars _ expansion.text 1
      exact isValid_anchorStart filledDollar (beginsPlainly_append plain rfl)
        (reads.append ReadsNames.lineEnd) (by simpa using distinct)
  · exact started

end Statement

end LineTemplate
