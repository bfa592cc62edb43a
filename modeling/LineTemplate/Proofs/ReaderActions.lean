import LineTemplate.Pattern.Reader

/-!
Contract: a regular expression, read action by action.

Owns:
- `ReaderAction`: what is read at a place depends on the text there, and what is
  done about it on the state of the reader;
- `Reading`, a whole run of the reader as a derivation.

Does not own: what the reader makes of a particular text.
-/

namespace LineTemplate

namespace PatternReader

/-! ### Actions -/

/-- What one step of the reader does. -/
inductive ReaderAction where
  | enter (opening : GroupOpening)
  | leave
  | endBranch
  | add (item : Pattern)
  | repeatLast (repetition : Repetition)

namespace ReaderAction

/-- The state after an action, if the action is possible. -/
def perform? (state : ReaderState) : ReaderAction → Option ReaderState
  | .enter opening => some (state.opened opening)
  | .leave => state.close?
  | .endBranch => some state.endBranch
  | .add item => some (state.add item)
  | .repeatLast repetition => state.repeat? repetition

/-- The action that a text begins with, and what is left behind it. -/
def read? (verbose : Bool) (first : Char) (rest : Text) : Option (ReaderAction × Text) :=
  if first = '(' then
    (readGroup verbose rest).map fun (opening, after) => (.enter opening, after)
  else if first = ')' then some (.leave, rest)
  else if first = '|' then some (.endBranch, rest)
  else if first = '[' then
    (readBracket verbose rest).map fun (set, after) => (.add set, after)
  else if startsRepetition first then
    (readRepetition verbose (first :: rest)).map fun (repetition, after) =>
      (.repeatLast repetition, after)
  else if first = '\\' then
    (readEscape verbose rest).map fun (atom, after) => (.add (.atom atom), after)
  else if first = '.' then some (.add (.atom .anyChar), rest)
  else if first = '^' then some (.add (.atom (.assertion .lineStart)), rest)
  else if first = '$' then some (.add (.atom (.assertion .lineEnd)), rest)
  else some (.add (.atom (.literal first false)), rest)

/-- A text that begins with no repetition begins with another action. -/
theorem ne_repeatLast_of_read? {verbose : Bool} {first : Char} {rest after : Text}
    {repetition : Repetition} (single : startsRepetition first = false) :
    read? verbose first rest ≠ some (.repeatLast repetition, after) := by
  intro found
  unfold read? at found
  rw [single] at found
  split at found
  · obtain ⟨_, _, same⟩ := Option.map_eq_some_iff.1 found
    cases same
  split at found
  · cases found
  split at found
  · cases found
  split at found
  · obtain ⟨_, _, same⟩ := Option.map_eq_some_iff.1 found
    cases same
  rw [if_neg Bool.false_ne_true] at found
  split at found
  · obtain ⟨_, _, same⟩ := Option.map_eq_some_iff.1 found
    cases same
  · grind

end ReaderAction

theorem step_eq_bind (state : ReaderState) (first : Char) (rest : Text) :
    step state first rest =
      (ReaderAction.read? state.verbose first rest).bind fun (action, after) =>
        (action.perform? state).map fun next => (next, after) := by
  unfold step ReaderAction.read?
  split
  · cases readGroup state.verbose rest <;> rfl
  split
  · rfl
  split
  · rfl
  split
  · cases readBracket state.verbose rest <;> rfl
  split
  · cases readRepetition state.verbose (first :: rest) <;> rfl
  split
  · cases readEscape state.verbose rest <;> rfl
  split
  · rfl
  split
  · rfl
  split
  · rfl
  · rfl

/-- A run of the reader from a state over a text to a tree. -/
inductive Reading : ReaderState → Text → Pattern → Prop where
  | done {state : ReaderState} {text : Text} {pattern : Pattern}
      (skipped : skip state.verbose text = [])
      (finished : state.finish? = some pattern) :
      Reading state text pattern
  | step {state next : ReaderState} {text rest after : Text} {first : Char}
      {action : ReaderAction} {pattern : Pattern}
      (skipped : skip state.verbose text = first :: rest)
      (found : ReaderAction.read? state.verbose first rest = some (action, after))
      (applied : action.perform? state = some next)
      (reading : Reading next after pattern) :
      Reading state text pattern

theorem reading_of_readFrom {state : ReaderState} {text : Text} {pattern : Pattern}
    (read : readFrom state text = some pattern) : Reading state text pattern := by
  fun_induction readFrom state text with
  | case1 state text skipped => exact .done skipped read
  | case2 state text first rest skipped next after found inductionHypothesis =>
      rw [step_eq_bind, Option.bind_eq_some_iff] at found
      obtain ⟨⟨action, remaining⟩, action_, applied⟩ := found
      obtain ⟨other, reached, same⟩ := Option.map_eq_some_iff.1 applied
      cases same
      exact .step skipped action_ reached (inductionHypothesis read)
  | case3 => cases read

theorem Reading.readFrom {state : ReaderState} {text : Text} {pattern : Pattern}
    (reading : Reading state text pattern) : readFrom state text = some pattern := by
  induction reading with
  | done skipped finished =>
      rw [PatternReader.readFrom]
      split
      · exact finished
      · rename_i whole
        rw [skipped] at whole
        cases whole
  | @step state next text rest after first action pattern skipped found applied _ read =>
      have stepped : PatternReader.step state first rest = some (next, after) := by
        rw [step_eq_bind, found]
        simp [applied]
      rw [PatternReader.readFrom]
      split
      · rename_i whole
        rw [skipped] at whole
        cases whole
      · rename_i whole
        rw [skipped] at whole
        cases whole
        rw [stepped]
        exact read

end PatternReader

end LineTemplate
