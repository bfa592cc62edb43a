import LineTemplate.Proofs.AlikeTrees
import LineTemplate.Proofs.OpenBeginnings

/-!
Contract: a regular expression, read with anchors and case flags in front of it.

Owns:
- that the anchors and flags in front of a text can be exchanged, unless a repetition
  follows them;
- what an anchor in front adds to a regular expression.

Does not own: which of them a rule begins with.
-/

namespace LineTemplate

namespace PatternReader

/-- The anchor at the beginning of a line as an item. -/
def lineStartItem : Pattern := .atom (.assertion .lineStart)

def flagItem : Pattern := .flags [(.ignoreCase, true)]

/-- The item of the case flag, where case is ignored. -/
def flagItems (ignoreCase : Bool) : List Pattern := if ignoreCase then [flagItem] else []

theorem idle_of_mem_flagItems {ignoreCase : Bool} :
    ∀ item ∈ flagItems ignoreCase, item.Idle := by
  intro item member
  cases ignoreCase with
  | false => cases member
  | true =>
      cases List.mem_singleton.1 member
      exact .ignoreCase

/-! ### Items in front -/

theorem readFrom_lineStart {state : ReaderState} (rest : Text) (spaced : state.verbose = false) :
    readFrom state ('^' :: rest) = readFrom (state.addAll [lineStartItem]) rest :=
  readFrom_of_step spaced rfl

theorem readFrom_flagText {state : ReaderState} (ignoreCase : Bool) (rest : Text)
    (spaced : state.verbose = false) :
    readFrom state (flagText ignoreCase ++ rest) =
      readFrom (state.addAll (flagItems ignoreCase)) rest := by
  cases ignoreCase with
  | false => rfl
  | true => exact readFrom_ignoreCaseFlag rest spaced

/-- The anchor and the flag, in front of a text. -/
theorem read?_lineStart_flagText (ignoreCase : Bool) (rest : Text) :
    Pattern.read? ('^' :: (flagText ignoreCase ++ rest)) =
      readFrom (ReaderState.start.addAll (lineStartItem :: flagItems ignoreCase)) rest := by
  rw [Pattern.read?, readFrom_lineStart _ rfl, readFrom_flagText _ _ rfl,
    ← ReaderState.addAll_append]
  rfl

theorem read?_lineStart (rest : Text) :
    Pattern.read? ('^' :: rest) = readFrom (ReaderState.start.addAll [lineStartItem]) rest :=
  read?_lineStart_flagText false rest

/-- The flag and the anchor, in front of a text. -/
theorem read?_flag_lineStart (rest : Text) :
    Pattern.read? (ignoreCaseFlag ++ '^' :: rest) =
      readFrom (ReaderState.start.addAll [flagItem, lineStartItem]) rest := by
  rw [Pattern.read?, readFrom_ignoreCaseFlag _ rfl, readFrom_lineStart _ rfl,
    ← ReaderState.addAll_append]
  rfl

/-! ### Repetitions in front -/

/-- A repetition cannot be read where nothing can be repeated. -/
theorem readFrom_eq_none {state : ReaderState} {text : Text} (spaced : state.verbose = false)
    (unrepeatable : ∀ repetition, state.repeat? repetition = none)
    (unsettled : ¬Settles text) : readFrom state text = none := by
  obtain ⟨first, rest, rfl, starts⟩ : ∃ first rest, text = first :: rest ∧
      startsRepetition first = true := by
    cases text with
    | nil => exact absurd settles_nil unsettled
    | cons first rest =>
        refine ⟨first, rest, rfl, ?_⟩
        by_contra single
        exact unsettled (settles_cons rest (by simpa using single))
  have stuck : step state first rest = none := by
    rw [step_of_startsRepetition _ _ starts]
    simp [unrepeatable]
  rw [readFrom]
  split
  · rename_i whole
    rw [spaced, skip_false] at whole
    cases whole
  · rename_i whole
    rw [spaced, skip_false] at whole
    cases whole
    rw [stuck]

/-- No regular expression begins with a repetition. -/
theorem settles_of_read? {text : Text} {pattern : Pattern}
    (read : Pattern.read? text = some pattern) : Settles text := by
  by_contra unsettled
  rw [Pattern.read?, readFrom_eq_none rfl (fun _ => rfl) unsettled] at read
  cases read

/-- A case flag in front of a repetition cannot be repeated. -/
theorem read?_flag_eq_none {rest : Text} (unsettled : ¬Settles rest) :
    Pattern.read? ('^' :: (ignoreCaseFlag ++ rest)) = none := by
  have flagged := read?_lineStart_flagText true rest
  rw [flagText, if_pos rfl] at flagged
  rw [flagged]
  exact readFrom_eq_none rfl (fun _ => rfl) unsettled

/-! ### Exchanges -/

/-- Idle items in front can be exchanged for others. -/
theorem exists_alike_readFrom_addAll {base other : List Pattern} {text : Text} {pattern : Pattern}
    (idle : ∀ item ∈ base, item.Idle) (nonempty : base ≠ [])
    (otherIdle : ∀ item ∈ other, item.Idle) (otherNonempty : other ≠ []) (settled : Settles text)
    (read : readFrom (ReaderState.start.addAll base) text = some pattern) :
    ∃ exchanged, readFrom (ReaderState.start.addAll other) text = some exchanged ∧
      pattern.Alike exchanged := by
  obtain ⟨begun, others, rfl, each⟩ := exists_readFrom_addAll settled read
  exact ⟨_, each other,
    (Pattern.AlikeBranches.idle_append idle nonempty otherIdle otherNonempty begun).ofBranches []
      others⟩

/-- A case flag can be put behind the anchor in front. -/
theorem exists_alike_flagText (ignoreCase : Bool) {text : Text} {pattern : Pattern}
    (settled : Settles text) (read : Pattern.read? ('^' :: text) = some pattern) :
    ∃ flagged, Pattern.read? ('^' :: (flagText ignoreCase ++ text)) = some flagged ∧
      pattern.Alike flagged := by
  rw [read?_lineStart] at read
  rw [read?_lineStart_flagText]
  refine exists_alike_readFrom_addAll ?_ (by simp) ?_ (by simp) settled read
  · simpa [lineStartItem] using Pattern.Idle.assertion .lineStart
  · rw [List.forall_mem_cons]
    exact ⟨.assertion .lineStart, idle_of_mem_flagItems⟩

/-- A case flag in front of an anchor can change places with it. -/
theorem exists_alike_moved {rest : Text} {pattern : Pattern} (settled : Settles rest)
    (read : Pattern.read? (ignoreCaseFlag ++ '^' :: rest) = some pattern) :
    ∃ moved, Pattern.read? ('^' :: (ignoreCaseFlag ++ rest)) = some moved ∧
      pattern.Alike moved := by
  have flagged := read?_lineStart_flagText true rest
  rw [flagText, if_pos rfl] at flagged
  rw [flagged]
  rw [read?_flag_lineStart] at read
  refine exists_alike_readFrom_addAll ?_ (by simp) ?_ (by simp) settled read
  · simpa [lineStartItem, flagItem] using
      And.intro Pattern.Idle.ignoreCase (Pattern.Idle.assertion .lineStart)
  · rw [List.forall_mem_cons]
    exact ⟨.assertion .lineStart, idle_of_mem_flagItems⟩

/-- With an anchor in front, a regular expression captures and allows the same. -/
theorem exists_read?_lineStart {text : Text} {pattern : Pattern}
    (read : Pattern.read? text = some pattern) :
    ∃ anchored, Pattern.read? ('^' :: text) = some anchored ∧
      anchored.captures = pattern.captures ∧
      ∀ unicode, anchored.isAllowed unicode = pattern.isAllowed unicode := by
  have idle : ∀ item ∈ [lineStartItem], item.Idle := by
    simpa [lineStartItem] using Pattern.Idle.assertion .lineStart
  have base : readFrom (ReaderState.start.addAll []) text = some pattern := read
  obtain ⟨begun, others, rfl, each⟩ := exists_readFrom_addAll (settles_of_read? read) base
  refine ⟨_, (read?_lineStart text).trans (each [lineStartItem]), ?_, ?_⟩
  · rw [choiceFrom, choiceFrom, Pattern.captures_ofBranches, Pattern.captures_ofBranches,
      List.flatMap_cons, List.flatMap_cons, Pattern.captures_idle_append idle]
    rfl
  · exact Pattern.isAllowed_ofBranches_congr (Pattern.isAllowed_idle_append idle begun)
      (Pattern.unicodeAfter_idle_append idle begun) [] others

end PatternReader

end LineTemplate
