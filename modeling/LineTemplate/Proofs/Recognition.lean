import LineTemplate.Proofs.Finishing
import LineTemplate.Recognizer

/-!
Contract: what the searches for forms find.

Owns:
- the tests that lines are judged by, one for each form, and
  `Recognizer.occurrences_ne_nil_iff`: a form occurs in a text exactly if its test is true;
- that the runs of white space that occur are those that literal text is encoded by, and
  that the calls that occur are those that a line is read into;
- that all parts of an occurrence stand where they say, counted in bytes.

Does not own: what is made of an occurrence.
-/

namespace LineTemplate

theorem Text.byteSize_append (front rest : Text) :
    byteSize (front ++ rest) = byteSize front + byteSize rest := by
  induction front with
  | nil => rw [List.nil_append, byteSize, Nat.zero_add]
  | cons first front inductionHypothesis =>
      rw [List.cons_append, byteSize, byteSize, inductionHypothesis, Nat.add_assoc]

/-! ### Units and pieces -/

/-- A unit of literal text that white space is kept as. -/
def LiteralUnit.isRun : LiteralUnit → Bool
  | .char _ => false
  | _ => true

theorem Literal.isRun_runUnit (run : Text) : (runUnit run).isRun = true := by
  unfold runUnit
  split
  · rfl
  · split <;> rfl

/-- The call that a piece of a line is, if it is one. -/
def LinePiece.call? : LinePiece → Option Call
  | .char _ => none
  | .call written => some written

/-! ### White space inside a text -/

namespace Statement

theorem hasInnerBlank_cons_of_blank {first : Char} (blank : Text.isBlank first = true)
    (rest : Text) : hasInnerBlank (first :: rest) = hasInnerBlank rest := by
  rw [hasInnerBlank, hasInnerBlank, Text.trim, Text.trim, Text.trimStart,
    List.dropWhile_cons_of_pos blank]
  rfl

theorem hasInnerBlank_cons_of_solid {first : Char} (solid : Text.isBlank first = false)
    (rest : Text) : hasInnerBlank (first :: rest) = (Text.trimEnd rest).any Text.isBlank := by
  rw [hasInnerBlank, Text.trim, Text.trimStart, List.dropWhile_cons_of_neg (by simp [solid]),
    Text.trimEnd_cons, if_neg (by simp [solid]), List.any_cons, solid, Bool.false_or]

end Statement

namespace Recognizer

open Statement

/-- White space is inside a text if it is found at the beginning, or inside what follows the
first character. -/
theorem hasInnerBlank_cons (first : Char) (rest : Text) :
    hasInnerBlank (first :: rest) =
      ((innerBlankAt? first rest).isSome || hasInnerBlank rest) := by
  have parts := List.takeWhile_append_dropWhile (p := Text.isBlank) (l := rest)
  have blanks : ∀ c ∈ rest.takeWhile Text.isBlank, Text.isBlank c = true :=
    List.all_eq_true.1 List.all_takeWhile
  have stops := List.head?_dropWhile_not Text.isBlank rest
  cases blank : Text.isBlank first with
  | true =>
      have nowhere : innerBlankAt? first rest = none := by
        unfold innerBlankAt?
        split <;> simp [blank]
      rw [hasInnerBlank_cons_of_blank blank, nowhere]
      rfl
  | false =>
      rw [hasInnerBlank_cons_of_solid blank, innerBlankAt?]
      split
      · -- Only white space follows.
        rename_i ends
        have all : ∀ c ∈ rest, Text.isBlank c = true := List.dropWhile_eq_nil_iff.1 ends
        have trimmed : Text.trimEnd rest = [] := by
          rw [Text.trimEnd, List.reverse_eq_nil_iff, List.dropWhile_eq_nil_iff]
          exact fun c member => all c (List.mem_reverse.1 member)
        rw [trimmed, hasInnerBlank, Text.trim, Text.trimStart, ends]
        rfl
      · -- No white space follows at once.
        rename_i unfollowed _
        rw [unfollowed, List.nil_append] at parts
        rw [hasInnerBlank, Text.trim, Text.trimStart, parts]
        rfl
      · rename_i last after ends filled
        rw [ends] at parts stops
        obtain ⟨next, more, run⟩ := List.exists_cons_of_ne_nil filled
        have inside : Text.isBlank next = true := blanks next (by simp [run])
        rw [← parts, Text.trimEnd_append_cons _ after stops, run]
        simp [blank, inside]

theorem innerBlanksFrom_cons (start : Nat) (first : Char) (rest : Text) :
    innerBlanksFrom start (first :: rest) =
      match innerBlankAt? first rest with
      | some (found, after) =>
          [some (span start found)] :: innerBlanksFrom (start + Text.byteSize found) after
      | none => innerBlanksFrom (start + first.utf8Size) rest := by
  rw [innerBlanksFrom]
  split <;> simp_all

theorem innerBlanksFrom_ne_nil_iff (start : Nat) (text : Text) :
    innerBlanksFrom start text ≠ [] ↔ hasInnerBlank text = true := by
  induction text generalizing start with
  | nil => simp [innerBlanksFrom, hasInnerBlank, Text.trim, Text.trimStart, Text.trimEnd]
  | cons first rest inductionHypothesis =>
      rw [innerBlanksFrom_cons, hasInnerBlank_cons]
      cases innerBlankAt? first rest with
      | some place => simp
      | none => simpa using inductionHypothesis _

/-! ### Runs of white space -/

/-- The texts of an occurrence and of its parts. -/
def texts (occurrence : Occurrence) : List (Option Text) := occurrence.map (Option.map Span.text)

/-- The runs that are found are those that literal text keeps white space as. -/
theorem map_runUnit_blankRunsFrom (start : Nat) (text : Text) :
    (blankRunsFrom start text).map (fun run => (texts run).map (Option.map Literal.runUnit)) =
      ((Literal.units text).filter LiteralUnit.isRun).map fun unit => [some unit] := by
  induction start, text using blankRunsFrom.induct with
  | case1 start => rw [blankRunsFrom, Literal.units]; rfl
  | case2 start first rest blank run inductionHypothesis =>
      rw [blankRunsFrom, Literal.units, if_pos blank, if_pos blank, List.map_cons,
        inductionHypothesis, List.filter_cons_of_pos (Literal.isRun_runUnit _), List.map_cons]
      rfl
  | case3 start first rest solid inductionHypothesis =>
      rw [blankRunsFrom, Literal.units, if_neg solid, if_neg solid, inductionHypothesis,
        List.filter_cons_of_neg (by simp [LiteralUnit.isRun])]

theorem blankRunsFrom_ne_nil_iff (start : Nat) (text : Text) :
    blankRunsFrom start text ≠ [] ↔ text.any Text.isBlank = true := by
  induction start, text using blankRunsFrom.induct with
  | case1 start => simp [blankRunsFrom]
  | case2 start first rest blank run inductionHypothesis =>
      simp [blankRunsFrom, blank]
  | case3 start first rest solid inductionHypothesis =>
      rw [blankRunsFrom, if_neg solid, inductionHypothesis, List.any_cons]
      simp [solid]

/-! ### Calls -/

def callTexts (written : Call) : List (Option Text) :=
  [some written.text, some written.name, some written.arguments]

/-- The calls that are found are those that a line is read into. -/
theorem map_texts_callsFrom (start : Nat) (pieces : List LinePiece) :
    (callsFrom start pieces).map texts =
      (pieces.filterMap LinePiece.call?).map callTexts := by
  induction pieces generalizing start with
  | nil => rfl
  | cons piece pieces inductionHypothesis =>
      cases piece with
      | char c => exact inductionHypothesis _
      | call written =>
          rw [callsFrom, List.map_cons, inductionHypothesis]
          rfl

theorem callsFrom_ne_nil_iff (start : Nat) (pieces : List LinePiece) :
    callsFrom start pieces ≠ [] ↔ (pieces.any fun piece => piece.call?.isSome) = true := by
  rw [ne_eq, ← List.map_eq_nil_iff (f := texts), map_texts_callsFrom, List.map_eq_nil_iff,
    List.filterMap_eq_nil_iff]
  simp [Option.isSome_iff_ne_none]

/-- A line calls a keyword exactly if a call is found whose name is known. -/
theorem hasKeywordCall_iff_occurs (text : Text) :
    hasKeywordCall text = true ↔
      ∃ occurrence ∈ occurrences text .call, ∃ written,
        texts occurrence = callTexts written ∧ (Keyword.find? written.name).isSome = true := by
  have found := map_texts_callsFrom 0 (LinePiece.ofText text)
  rw [hasKeywordCall, List.any_eq_true]
  constructor
  · rintro ⟨piece, member, known⟩
    cases piece with
    | char c => cases known
    | call written =>
        have among : callTexts written ∈ (callsFrom 0 (LinePiece.ofText text)).map texts := by
          rw [found]
          exact List.mem_map_of_mem (List.mem_filterMap.2 ⟨_, member, rfl⟩)
        obtain ⟨occurrence, occurs, same⟩ := List.mem_map.1 among
        exact ⟨occurrence, occurs, written, same, known⟩
  · rintro ⟨occurrence, occurs, written, same, known⟩
    have among := List.mem_map_of_mem (f := texts) occurs
    rw [occurrences, found, same] at among
    obtain ⟨other, read, alike⟩ := List.mem_map.1 among
    obtain ⟨piece, member, isCall⟩ := List.mem_filterMap.1 read
    cases piece with
    | char c => cases isCall
    | call again =>
        cases isCall
        have name : other.name = written.name := by
          simp only [callTexts, List.cons.injEq, Option.some.injEq] at alike
          exact alike.2.1
        exact ⟨_, member, by rw [LinePiece.keyword?, name, known]⟩

/-! ### Forms -/

/-- The test by which a text is judged to have a form somewhere. -/
def holds (text : Text) : Recognizer → Bool
  | .markedLine => true
  | .bareWord => Text.isBareWord text
  | .assembledLine => (Line.indentation ++ ['^']).isPrefixOf text
  | .innerBlank => hasInnerBlank text
  | .call => (LinePiece.ofText text).any fun piece => piece.call?.isSome
  | .blankRun => text.any Text.isBlank
  | .variableName => Text.isVariableName text

/-- A form occurs in a text exactly if its test is true. -/
theorem occurrences_ne_nil_iff (form : Recognizer) (text : Text) :
    occurrences text form ≠ [] ↔ form.holds text = true := by
  have optional : ∀ (found : Bool) (occurrence : Occurrence),
      (if found then [occurrence] else []) ≠ [] ↔ found = true := by
    intro found occurrence
    cases found <;> simp
  cases form with
  | markedLine =>
      rw [occurrences, holds]
      split <;> simp
  | bareWord => exact optional _ _
  | assembledLine => exact optional _ _
  | innerBlank => exact innerBlanksFrom_ne_nil_iff 0 text
  | call => exact callsFrom_ne_nil_iff 0 _
  | blankRun => exact blankRunsFrom_ne_nil_iff 0 text
  | variableName => exact optional _ _

/-! ### Places -/

/-- A stretch lies in a text that begins at some byte: its characters stand in the text, and
its ends say where. -/
def LiesIn (start : Nat) (text : Text) (place : Span) : Prop :=
  ∃ before after, text = before ++ place.text ++ after ∧
    place = span (start + Text.byteSize before) place.text

/-- All parts of an occurrence lie in a text. -/
def PartsLieIn (start : Nat) (text : Text) (occurrence : Occurrence) : Prop :=
  ∀ place, some place ∈ occurrence → LiesIn start text place

theorem liesIn_middle (start : Nat) (before found after : Text) :
    LiesIn start (before ++ found ++ after) (span (start + Text.byteSize before) found) :=
  ⟨before, after, rfl, rfl⟩

/-- What lies in the rest of a text lies in the text. -/
theorem LiesIn.behind {start : Nat} {front rest : Text} {place : Span}
    (lies : LiesIn (start + Text.byteSize front) rest place) :
    LiesIn start (front ++ rest) place := by
  obtain ⟨before, after, whole, same⟩ := lies
  refine ⟨front ++ before, after, by rw [whole]; simp, ?_⟩
  rw [Text.byteSize_append, ← Nat.add_assoc]
  exact same

theorem PartsLieIn.behind {start : Nat} {front rest : Text} {occurrence : Occurrence}
    (lies : PartsLieIn (start + Text.byteSize front) rest occurrence) :
    PartsLieIn start (front ++ rest) occurrence := fun place member => (lies place member).behind

theorem PartsLieIn.behind_char {start : Nat} {first : Char} {rest : Text} {occurrence : Occurrence}
    (lies : PartsLieIn (start + first.utf8Size) rest occurrence) :
    PartsLieIn start (first :: rest) occurrence :=
  @PartsLieIn.behind start [first] rest occurrence lies

theorem partsLieIn_singleton (start : Nat) (found after : Text) :
    PartsLieIn start (found ++ after) [some (span start found)] := by
  intro place member
  cases List.mem_singleton.1 member
  exact liesIn_middle start [] found after

theorem eq_append_of_innerBlankAt? {first : Char} {rest found after : Text}
    (occurs : innerBlankAt? first rest = some (found, after)) :
    first :: rest = found ++ after := by
  unfold innerBlankAt? at occurs
  split at occurs
  · cases occurs
  · cases occurs
  · rename_i last behind ends _
    split at occurs
    · cases occurs
    · cases occurs
      have parts : rest = rest.takeWhile Text.isBlank ++ last :: after := by
        rw [← ends, List.takeWhile_append_dropWhile]
      conv_lhs => rw [parts]
      simp

theorem partsLieIn_of_mem_innerBlanksFrom {start : Nat} {text : Text} {occurrence : Occurrence}
    (occurs : occurrence ∈ innerBlanksFrom start text) : PartsLieIn start text occurrence := by
  induction start, text using innerBlanksFrom.induct with
  | case1 start => simp [innerBlanksFrom] at occurs
  | case2 start first rest found after here inductionHypothesis =>
      rw [innerBlanksFrom_cons, here] at occurs
      rw [eq_append_of_innerBlankAt? here]
      rcases List.mem_cons.1 occurs with rfl | later
      · exact partsLieIn_singleton start found after
      · exact (inductionHypothesis later).behind
  | case3 start first rest nowhere inductionHypothesis =>
      rw [innerBlanksFrom_cons, nowhere] at occurs
      exact (inductionHypothesis occurs).behind_char

theorem partsLieIn_of_mem_blankRunsFrom {start : Nat} {text : Text} {occurrence : Occurrence}
    (occurs : occurrence ∈ blankRunsFrom start text) : PartsLieIn start text occurrence := by
  induction start, text using blankRunsFrom.induct with
  | case1 start => simp [blankRunsFrom] at occurs
  | case2 start first rest blank run inductionHypothesis =>
      have parts : first :: rest = run ++ rest.dropWhile Text.isBlank := by
        rw [List.cons_append, List.takeWhile_append_dropWhile]
      rw [blankRunsFrom, if_pos blank] at occurs
      rw [parts]
      rcases List.mem_cons.1 occurs with rfl | later
      · exact partsLieIn_singleton start run _
      · exact (inductionHypothesis later).behind
  | case3 start first rest solid inductionHypothesis =>
      rw [blankRunsFrom, if_neg solid] at occurs
      exact (inductionHypothesis occurs).behind_char

theorem partsLieIn_of_mem_callsFrom {start : Nat} {pieces : List LinePiece} {occurrence : Occurrence}
    (occurs : occurrence ∈ callsFrom start pieces) :
    PartsLieIn start (pieces.flatMap LinePiece.text) occurrence := by
  induction pieces generalizing start with
  | nil => cases occurs
  | cons piece pieces inductionHypothesis =>
      rw [List.flatMap_cons]
      cases piece with
      | char c => exact (inductionHypothesis occurs).behind
      | call written =>
          rcases List.mem_cons.1 occurs with rfl | later
          · intro place member
            simp only [List.mem_cons, Option.some.injEq, List.not_mem_nil, or_false] at member
            rcases member with rfl | rfl | rfl
            · exact liesIn_middle start [] written.text _
            · exact ⟨[], '(' :: (written.arguments ++ [')']) ++ pieces.flatMap LinePiece.text,
                by simp [LinePiece.text, Call.text, span], rfl⟩
            · refine ⟨written.name ++ ['('], ')' :: pieces.flatMap LinePiece.text,
                by simp [LinePiece.text, Call.text, span], ?_⟩
              rw [Text.byteSize_append, ← Nat.add_assoc]
              rfl
          · exact (inductionHypothesis later).behind

theorem partsLieIn_whole (text : Text) : PartsLieIn 0 text (whole text) := by
  have lies := partsLieIn_singleton 0 text []
  rwa [List.append_nil] at lies

theorem partsLieIn_of_mem_markedLine {text : Text} {occurrence : Occurrence}
    (occurs : occurrence ∈ occurrences text .markedLine) : PartsLieIn 0 text occurrence := by
  have all := partsLieIn_whole text (span 0 text) List.mem_cons_self
  rw [occurrences] at occurs
  split at occurs
  · rename_i rest marked
    obtain ⟨written, folded, same⟩ := Line.dropMarker?_eq_some_iff.1 marked
    have length : Line.marker.length = written.length := by rw [← folded, List.length_map]
    have parts : text = text.take Line.marker.length ++ rest := by
      rw [same, length, List.take_left]
    cases List.mem_singleton.1 occurs
    intro place member
    simp only [List.mem_cons, Option.some.injEq, List.not_mem_nil, or_false] at member
    rcases member with rfl | rfl | rfl
    · exact all
    · exact ⟨[], rest, parts, rfl⟩
    · exact ⟨text.take Line.marker.length, [], by simpa [span] using parts, by simp [span]⟩
  · cases List.mem_singleton.1 occurs
    intro place member
    simp only [List.mem_cons, Option.some.injEq, List.not_mem_nil, or_false, reduceCtorEq,
      false_or, or_self] at member
    cases member
    exact all

/-- Every stretch that is found lies in the text where it says. -/
theorem partsLieIn_of_mem_occurrences {form : Recognizer} {text : Text} {occurrence : Occurrence}
    (occurs : occurrence ∈ occurrences text form) : PartsLieIn 0 text occurrence := by
  have optional : ∀ (found : Bool) (single : Occurrence), PartsLieIn 0 text single →
      occurrence ∈ (if found then [single] else []) → PartsLieIn 0 text occurrence := by
    intro found single lies member
    cases found with
    | false => cases member
    | true =>
        cases List.mem_singleton.1 member
        exact lies
  cases form with
  | markedLine => exact partsLieIn_of_mem_markedLine occurs
  | bareWord => exact optional _ _ (partsLieIn_whole text) occurs
  | assembledLine =>
      refine optional _ _ ?_ occurs
      have lies := partsLieIn_singleton 0 (text.take 3) (text.drop 3)
      rwa [List.take_append_drop] at lies
  | innerBlank => exact partsLieIn_of_mem_innerBlanksFrom occurs
  | call =>
      have lies := partsLieIn_of_mem_callsFrom occurs
      rwa [LinePiece.ofText, LinePiece.flatMap_text_read] at lies
  | blankRun => exact partsLieIn_of_mem_blankRunsFrom occurs
  | variableName => exact optional _ _ (partsLieIn_whole text) occurs

end Recognizer

end LineTemplate
