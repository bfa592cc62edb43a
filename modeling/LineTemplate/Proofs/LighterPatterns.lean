import LineTemplate.Proofs.FinalAnchors
import LineTemplate.Proofs.Judges

/-!
Contract: the space of regular expressions with one dollar sign less at their end.

Owns:
- that an item at the end of a branch takes its own space;
- `Pattern.acceptsShortened_judge`: what the built-in judge accepts with two dollar signs
  at its end, it accepts with one.

Does not own: how such regular expressions are read.
-/

namespace LineTemplate

namespace Pattern

/-! ### Space -/

/-- A branch takes no less space with an anchor at its end. -/
theorem weight_ofItems_le (items : List Pattern) (place : Assertion) (unicode : Bool) :
    (ofItems items).weight unicode ≤
      (ofItems (items ++ [.atom (.assertion place)])).weight unicode := by
  induction items generalizing unicode with
  | nil => exact Nat.le_refl Weight.byte
  | cons item items inductionHypothesis =>
      by_cases alone : items = []
      · subst alone
        exact Nat.le_add_right _ _
      · rw [List.cons_append, ofItems_cons item alone, ofItems_cons item (by simp), weight, weight]
        exact Nat.add_le_add_left (inductionHypothesis _) _

/-- A choice takes no less space with a larger last branch. -/
theorem weight_ofBranches_le {one other : Pattern}
    (lighter : ∀ unicode, one.weight unicode ≤ other.weight unicode) (front : List Pattern)
    (unicode : Bool) :
    (ofBranches (front ++ [one])).weight unicode ≤
      (ofBranches (front ++ [other])).weight unicode := by
  induction front generalizing unicode with
  | nil => exact lighter unicode
  | cons branch front inductionHypothesis =>
      rw [List.cons_append, List.cons_append, ofBranches_cons branch (by simp),
        ofBranches_cons branch (by simp), weight, weight]
      exact Nat.add_le_add_left (inductionHypothesis _) _

end Pattern

namespace PatternReader

/-- Finished without an anchor at its end, a regular expression takes no more space. -/
theorem weight_le_of_finish? {before : ReaderState} {pattern other : Pattern}
    (finished : before.finish? = some other)
    (anchored : (before.add (.atom (.assertion .lineEnd))).finish? = some pattern) :
    other.weight true ≤ pattern.weight true := by
  rw [ReaderState.finish?] at finished anchored
  split at finished
  · split at anchored
    · cases finished
      cases anchored
      have branches := Pattern.weight_ofBranches_le
        (Pattern.weight_ofItems_le before.items.reverse .lineEnd) before.branches.reverse true
      simpa [ReaderState.content, ReaderState.add] using branches
    · cases anchored
  · cases finished

/-- A shortened text is read as a regular expression that is judged alike and takes no more
space. -/
theorem exists_lighter_readFrom_shorten {state : ReaderState} {text : Text} {pattern : Pattern}
    (read : readFrom state text = some pattern) :
    ∃ other, readFrom state (shorten text) = some other ∧ pattern.Alike other ∧
      other.weight true ≤ pattern.weight true := by
  rcases (reading_of_readFrom read).shorten with whole | ⟨before, atom, other, whole, ends⟩
  · exact ⟨pattern, whole.readFrom, .refl pattern, Nat.le_refl _⟩
  · exact ⟨other, whole.readFrom, alike_of_finish? ends.1 ends.2,
      weight_le_of_finish? ends.1 ends.2⟩

end PatternReader

namespace Pattern

theorem acceptsShortened_judge : judge.AcceptsShortened := by
  intro text accepted
  obtain ⟨pattern, read, proper, light⟩ := accepts_iff.1 accepted
  obtain ⟨other, shorter, alike, lighter⟩ := PatternReader.exists_lighter_readFrom_shorten read
  rw [PatternReader.shorten_dollars] at shorter
  exact accepts_iff.2
    ⟨other, shorter, by rw [← alike.isProper_eq, proper], Nat.le_trans lighter light⟩

end Pattern

end LineTemplate
