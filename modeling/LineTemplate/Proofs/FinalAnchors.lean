import LineTemplate.Proofs.AlikeTrees
import LineTemplate.Proofs.ReaderActions
import LineTemplate.Proofs.ShortenedSets

/-!
Contract: a regular expression, read with one dollar sign less at its end.

Owns:
- that every action is read alike of a text and of the shortened one;
- what the regular expression lacks without the dollar sign.

Does not own: where the dollar signs come from.
-/

namespace LineTemplate

namespace PatternReader

namespace ReaderAction

/-- An action that takes one character leaves the rest of a shortened text, unless it
takes the first of the two dollar signs. -/
theorem read?_shorten_of_single {verbose : Bool} {first : Char} {atom : Atom} (rest : Text)
    (single : ∀ rest, read? verbose first rest = some (.add (.atom atom), rest)) :
    ∃ other, shorten (first :: rest) = first :: other ∧
      (read? verbose first other = some (.add (.atom atom), shorten rest) ∨
        rest = ['$'] ∧ read? verbose first other = some (.add (.atom atom), [])) := by
  rcases shorten_cons_or first rest with other | ⟨rfl, rfl, other⟩
  · exact ⟨_, other, .inl (single _)⟩
  · exact ⟨_, other, .inr ⟨rfl, single _⟩⟩

/-- An action is read alike of a shortened text, unless it reads the first of the two
dollar signs; then the other one is missing behind it. -/
theorem read?_shorten {verbose : Bool} {first : Char} {rest after : Text}
    {action : ReaderAction} (found : read? verbose first rest = some (action, after)) :
    ∃ other, shorten (first :: rest) = first :: other ∧
      (read? verbose first other = some (action, shorten after) ∨
        after = ['$'] ∧ (∃ atom, action = .add (.atom atom)) ∧
          read? verbose first other = some (action, [])) := by
  have single : ∀ atom, (∀ rest, read? verbose first rest = some (.add (.atom atom), rest)) →
      ∃ other, shorten (first :: rest) = first :: other ∧
        (read? verbose first other = some (action, shorten after) ∨
          after = ['$'] ∧ (∃ atom, action = .add (.atom atom)) ∧
            read? verbose first other = some (action, [])) := by
    intro atom each
    obtain ⟨other, begins, read⟩ := read?_shorten_of_single rest each
    rw [each] at found
    cases found
    exact ⟨other, begins, read.imp id fun alone => ⟨alone.1, ⟨atom, rfl⟩, alone.2⟩⟩
  by_cases opens : first = '('
  · subst opens
    obtain ⟨⟨opening, remaining⟩, read, same⟩ := Option.map_eq_some_iff.1 found
    cases same
    exact ⟨_, shorten_cons_of_ne _ (by decide), .inl (by simp [read?, readGroup_shorten read])⟩
  by_cases closes : first = ')'
  · subst closes
    cases found
    exact ⟨_, shorten_cons_of_ne _ (by decide), .inl rfl⟩
  by_cases splits : first = '|'
  · subst splits
    cases found
    exact ⟨_, shorten_cons_of_ne _ (by decide), .inl rfl⟩
  by_cases sets : first = '['
  · subst sets
    obtain ⟨⟨set, remaining⟩, read, same⟩ := Option.map_eq_some_iff.1 found
    cases same
    exact ⟨_, shorten_cons_of_ne _ (by decide), .inl (by simp [read?, readBracket_shorten read])⟩
  by_cases repeats : startsRepetition first = true
  · have different : first ≠ '$' := by
      rintro rfl
      cases repeats
    simp only [read?, if_neg opens, if_neg closes, if_neg splits, if_neg sets, if_pos repeats]
      at found
    obtain ⟨⟨repetition, remaining⟩, read, same⟩ := Option.map_eq_some_iff.1 found
    cases same
    have other := readRepetition_shorten read
    rw [shorten_cons_of_ne _ different] at other
    refine ⟨_, shorten_cons_of_ne _ different, .inl ?_⟩
    simp only [read?, if_neg opens, if_neg closes, if_neg splits, if_neg sets, if_pos repeats,
      other, Option.map_some]
  by_cases escapes : first = '\\'
  · subst escapes
    obtain ⟨⟨atom, remaining⟩, read, same⟩ := Option.map_eq_some_iff.1 found
    cases same
    refine ⟨_, shorten_cons_of_ne _ (by decide), ?_⟩
    rcases readEscape_shorten read with other | ⟨alone, other⟩
    · exact .inl (by simp [read?, startsRepetition, other])
    · exact .inr ⟨alone, ⟨atom, rfl⟩, by simp [read?, startsRepetition, other]⟩
  by_cases dot : first = '.'
  · subst dot
    exact single .anyChar fun _ => rfl
  by_cases starts : first = '^'
  · subst starts
    exact single (.assertion .lineStart) fun _ => rfl
  by_cases ends : first = '$'
  · subst ends
    exact single (.assertion .lineEnd) fun _ => rfl
  refine single (.literal first false) fun rest => ?_
  simp only [read?, if_neg opens, if_neg closes, if_neg splits, if_neg sets, if_neg repeats,
    if_neg escapes, if_neg dot, if_neg starts, if_neg ends]

end ReaderAction

/-- Behind a place, one dollar sign is the end of the regular expression. -/
theorem Reading.finish?_of_dollar {state : ReaderState} {pattern : Pattern}
    (reading : Reading state ['$'] pattern) :
    (state.add (.atom (.assertion .lineEnd))).finish? = some pattern := by
  cases reading with
  | done skipped => rw [skip_dollar] at skipped; cases skipped
  | step skipped found applied reading =>
      rw [skip_dollar] at skipped
      cases skipped
      cases found
      cases applied
      cases reading with
      | done _ finished => exact finished
      | step skipped => simp [skip] at skipped

/-- A shortened text is read as the text is, or without the anchor that the text has
behind another atom at its end. -/
theorem Reading.shorten {state : ReaderState} {text : Text} {pattern : Pattern}
    (reading : Reading state text pattern) :
    Reading state (shorten text) pattern ∨
      ∃ (before : ReaderState) (atom : Atom) (other : Pattern),
        Reading state (shorten text) other ∧
          (before.add (.atom atom)).finish? = some other ∧
          ((before.add (.atom atom)).add (.atom (.assertion .lineEnd))).finish? =
            some pattern := by
  induction reading with
  | done skipped finished =>
      exact .inl (.done (by rw [skip_shorten, skipped, shorten_nil]) finished)
  | @step state next text rest after first action pattern skipped found applied reading
      inductionHypothesis =>
      obtain ⟨other, begins, read⟩ := ReaderAction.read?_shorten found
      have inside : skip state.verbose (PatternReader.shorten text) = first :: other := by
        rw [skip_shorten, skipped, begins]
      rcases read with read | ⟨rfl, ⟨atom, rfl⟩, read⟩
      · rcases inductionHypothesis with whole | ⟨before, atom, shorter, whole, finished⟩
        · exact .inl (.step inside read applied whole)
        · exact .inr ⟨before, atom, shorter, .step inside read applied whole, finished⟩
      · cases applied
        -- The dollar sign that was read alone is the last thing that the shortened text holds.
        have finished := reading.finish?_of_dollar
        have outside : (state.add (.atom atom)).surrounding.isEmpty = true := by
          rw [ReaderState.finish?] at finished
          split at finished
          · assumption
          · cases finished
        have ended : (state.add (.atom atom)).finish? = some (state.add (.atom atom)).content :=
          if_pos outside
        exact .inr ⟨state, atom, _, .step inside read rfl (.done (by simp [skip]) ended), ended,
          finished⟩

/-- Finished behind an atom, a regular expression is judged alike with an anchor and
without it. -/
theorem alike_of_finish? {before : ReaderState} {atom : Atom} {pattern other : Pattern}
    (finished : (before.add (.atom atom)).finish? = some other)
    (anchored : ((before.add (.atom atom)).add (.atom (.assertion .lineEnd))).finish? =
      some pattern) :
    pattern.Alike other := by
  rw [ReaderState.finish?] at finished anchored
  split at finished
  · split at anchored
    · cases finished
      cases anchored
      have branches := (Pattern.AlikeBranches.append_idle (.assertion .lineEnd)
        before.items.reverse atom).ofBranches before.branches.reverse []
      simpa [ReaderState.content, ReaderState.add] using branches
    · cases anchored
  · cases finished

theorem exists_alike_readFrom_shorten {state : ReaderState} {text : Text} {pattern : Pattern}
    (read : readFrom state text = some pattern) :
    ∃ other, readFrom state (shorten text) = some other ∧ pattern.Alike other := by
  rcases (reading_of_readFrom read).shorten with whole | ⟨before, atom, other, whole, ends⟩
  · exact ⟨pattern, whole.readFrom, .refl pattern⟩
  · exact ⟨other, whole.readFrom, alike_of_finish? ends.1 ends.2⟩

/-- Of several dollar signs at the end of a regular expression, all but one can be left
out. -/
theorem exists_alike_of_dollars {text : Text} {count : Nat} {pattern : Pattern}
    (read : Pattern.read? (text ++ '$' :: List.replicate count '$') = some pattern) :
    ∃ other, Pattern.read? (text ++ ['$']) = some other ∧ pattern.Alike other := by
  induction count generalizing pattern with
  | zero => exact ⟨pattern, read, .refl pattern⟩
  | succ count inductionHypothesis =>
      obtain ⟨other, shorter, alike⟩ := exists_alike_readFrom_shorten read
      have two : '$' :: List.replicate (count + 1) '$' = List.replicate count '$' ++ ['$', '$'] :=
        (List.replicate_append_replicate (m := 2)).symm
      have one : List.replicate count '$' ++ ['$'] = '$' :: List.replicate count '$' :=
        List.replicate_append_replicate (m := 1)
      rw [two, ← List.append_assoc, shorten_dollars, List.append_assoc, one] at shorter
      obtain ⟨last, read, alikeLast⟩ := inductionHypothesis shorter
      exact ⟨last, read, alike.trans alikeLast⟩

end PatternReader

end LineTemplate
