import LineTemplate.Proofs.Calls
import LineTemplate.Proofs.Characters
import LineTemplate.Proofs.Composition

/-!
Contract: expanded lines call no keyword.

Owns:
- that literal text, patterns of keywords and references open no call, wherever
  they are put together;
- `hasKeywordCall_statement`, for the statement of a whole expansion.

Does not own: what becomes of a statement in a rule.

An opening parenthesis in a statement belongs to a group. Only the pattern of a
single digit ends with a character that a name may consist of, and it is one
character behind a backslash. So no two such characters stand before a group.
-/

namespace LineTemplate

namespace Text

/-- Texts that open no call, whatever stands before them, open none in a row. -/
theorem composes_opensCall : Composes fun text => ∀ run, opensCall run text = false where
  nil _ := rfl
  append first second run := by rw [opensCall_append, first, second, Bool.or_self]

theorem opensCall_of_not_mem {text : Text} (flat : '(' ∉ text) (run : Nat) :
    opensCall run text = false := by
  induction text generalizing run with
  | nil => rfl
  | cons c rest inductionHypothesis =>
      simp only [List.mem_cons, not_or] at flat
      rw [opensCall, inductionHypothesis flat.2]
      simp [Ne.symm flat.1]

theorem runAfter_concat (run : Nat) (text : Text) {last : Char} (apart : isLowerWord last = false) :
    runAfter run (text ++ [last]) = 0 := by
  rw [runAfter_append]
  simp [runAfter, apart]

end Text

/-! ### Literal text -/

namespace Literal

theorem opensCall_escapeChar (c : Char) (run : Nat) :
    Text.opensCall run (escapeChar c) = false := by
  have apart : Text.isLowerWord '\\' = false := by decide
  unfold escapeChar
  split
  · simp [Text.opensCall, apart]
  · rename_i plain
    have different : c ≠ '(' := by
      rintro rfl
      exact plain (by decide)
    simp [Text.opensCall, different]

theorem opensCall_escape (text : Text) (run : Nat) : Text.opensCall run (escape text) = false :=
  Text.composes_opensCall.escape opensCall_escapeChar text run

theorem opensCall_encode (text : Text) (run : Nat) : Text.opensCall run (encode text) = false :=
  Text.composes_opensCall.encode opensCall_escapeChar (Text.opensCall_of_not_mem (by decide))
    (Text.opensCall_of_not_mem (by decide)) text run

theorem runAfter_escapeChar {c : Char} (apart : Text.isLowerWord c = false) (run : Nat) :
    Text.runAfter run (escapeChar c) = 0 := by
  unfold escapeChar
  split
  · exact Text.runAfter_concat run ['\\'] apart
  · exact Text.runAfter_concat run [] apart

theorem runAfter_runUnit (text : Text) (run : Nat) :
    Text.runAfter run (unitPattern (runUnit text)) = 0 := by
  unfold runUnit
  split
  · exact Text.runAfter_concat run [] (by decide)
  · split
    · exact Text.runAfter_concat run [' '] (by decide)
    · exact Text.runAfter_concat run ['\\', 's'] (by decide)

/-- Behind literal text whose last character is in no name, no name has begun. -/
theorem runAfter_encode {text : Text} (nonempty : text ≠ [])
    (apart : ∀ c ∈ text.getLast?, Text.isLowerWord c = false) (run : Nat) :
    Text.runAfter run (encode text) = 0 := by
  unfold encode
  fun_induction units text generalizing run with
  | case1 => exact absurd rfl nonempty
  | case2 first rest blank inductionHypothesis =>
      rw [List.flatMap_cons, Text.runAfter_append, runAfter_runUnit]
      by_cases more : rest.dropWhile Text.isBlank = []
      · simp [more, units, Text.runAfter]
      · refine inductionHypothesis more (fun c last => apart c ?_) 0
        have split := List.takeWhile_append_dropWhile (p := Text.isBlank) (l := rest)
        rw [← split, ← List.cons_append]
        exact List.mem_getLast?_append_of_mem_getLast? last
  | case3 first rest solid inductionHypothesis =>
      rw [List.flatMap_cons, Text.runAfter_append]
      by_cases more : rest = []
      · subst more
        simp [units, Text.runAfter, unitPattern, runAfter_escapeChar (apart first (by simp))]
      · refine inductionHypothesis more (fun c last => apart c ?_) _
        rw [← List.singleton_append]
        exact List.mem_getLast?_append_of_mem_getLast? last

end Literal

/-! ### Patterns of keywords -/

namespace Keyword

/-- The pattern of a keyword opens no call behind at most one character of a name,
and leaves at most one such character at its end. -/
theorem opensCall_pattern {keyword : Keyword} (known : keyword ∈ all) {run : Nat} (few : run < 2) :
    Text.opensCall run keyword.pattern = false ∧ Text.runAfter run keyword.pattern < 2 := by
  have checked : ∀ keyword ∈ all, ∀ run < 2,
      Text.opensCall run keyword.pattern = false ∧ Text.runAfter run keyword.pattern < 2 := by
    decide
  exact checked keyword known run few

/-- An anchor does neither, whatever stands before it. -/
theorem opensCall_anchor {keyword : Keyword} (known : keyword ∈ all)
    (anchor : keyword.isAnchor = true) (run : Nat) :
    Text.opensCall run keyword.pattern = false ∧ Text.runAfter run keyword.pattern < 2 := by
  cases role : keyword.role with
  | placeholder => simp [isAnchor, role] at anchor
  | lineStart =>
      rw [pattern_of_lineStart known role]
      exact ⟨Text.opensCall_of_not_mem (by decide) run,
        lt_of_eq_of_lt (Text.runAfter_concat run [] (by decide)) (by decide)⟩
  | lineEnd =>
      rw [pattern_of_lineEnd known role]
      exact ⟨Text.opensCall_of_not_mem (by decide) run,
        lt_of_eq_of_lt (Text.runAfter_concat run [] (by decide)) (by decide)⟩

end Keyword

namespace CallArguments

theorem opensCall_pattern {keyword : Keyword} (known : keyword ∈ Keyword.all)
    (arguments : CallArguments) {run : Nat} (few : run < 2) :
    Text.opensCall run (pattern keyword arguments) = false ∧
      Text.runAfter run (pattern keyword arguments) < 2 := by
  cases alternatives : arguments.alternatives.isEmpty with
  | true =>
      rw [pattern, alternatives]
      exact Keyword.opensCall_pattern known few
  | false =>
      have opening : Text.opensCall run "(?:".toList = false ∧
          Text.runAfter run "(?:".toList = 0 := by
        have checked : ∀ run < 2,
            Text.opensCall run "(?:".toList = false ∧ Text.runAfter run "(?:".toList = 0 := by
          decide
        exact checked run few
      have others : ∀ run, Text.opensCall run
          (arguments.alternatives.flatMap fun alternative => '|' :: Literal.escape alternative) =
            false := by
        refine Text.composes_opensCall.flatMap fun alternative _ run => ?_
        rw [Text.opensCall, Literal.opensCall_escape]
        simp
      rw [pattern_of_alternatives keyword alternatives]
      constructor
      · rw [List.append_assoc, Text.opensCall_append, opening.1, opening.2, Text.opensCall_append,
          Text.opensCall_append, others, (Keyword.opensCall_pattern known (by decide)).1]
        simp [Text.opensCall]
      · rw [Text.runAfter_concat run _ (by decide)]
        decide

end CallArguments

/-! ### Parts -/

namespace ExpandedPart

/-- The part of a call opens no call behind at most one character of a name, and
leaves at most one such character at its end. -/
theorem opensCall_of_ofCall {call : KeywordCall} {part : ExpandedPart}
    (known : call.keyword ∈ Keyword.all) (expanded : ofCall call = .ok part) {run : Nat}
    (few : run < 2) :
    Text.opensCall run part.statement = false ∧ Text.runAfter run part.statement < 2 := by
  obtain ⟨arguments, read, ⟨-, rfl⟩ | ⟨-, rfl⟩ | ⟨-, captured, named, -, rfl⟩⟩ :=
    ofCall_eq_ok expanded
  · exact Keyword.opensCall_pattern known few
  · exact CallArguments.opensCall_pattern known arguments few
  · have proper := CallArguments.isVariableName_of_read read captured.name named
    have flat : '(' ∉ captured.reference := by
      simp [Variable.reference, Text.not_mem_of_isVariableName proper (c := '(') (by decide)]
    refine ⟨Text.opensCall_of_not_mem flat run, ?_⟩
    have last : Text.runAfter run ('$' :: '{' :: captured.name ++ ['}']) = 0 :=
      Text.runAfter_concat run _ (by decide)
    exact lt_of_eq_of_lt last (by decide)

end ExpandedPart

namespace AnnotatedText

/-- Every call stands behind text that does not end with a word character. -/
def Apart : Text → List KeywordCall → Prop
  | _, [] => True
  | before, call :: calls =>
      (∀ c ∈ before.getLast?, Text.isWord c = false) ∧ Apart call.following calls

theorem Apart.append (front : Text) {before : Text} {calls : List KeywordCall}
    (apart : Apart before calls)
    (boundary : before = [] → calls ≠ [] → ∀ c ∈ front.getLast?, Text.isWord c = false) :
    Apart (front ++ before) calls := by
  cases calls with
  | nil => trivial
  | cons call calls =>
      refine ⟨?_, apart.2⟩
      rcases List.eq_nil_or_concat before with rfl | ⟨init, last, rfl⟩
      · simpa using boundary rfl (by simp)
      · have ends := apart.1
        simpa [← List.append_assoc] using ends

/-- Calls are read behind a word boundary only. -/
theorem apart_ofPieces (afterWord : Bool) (text : Text) :
    let annotated := ofPieces (LinePiece.read afterWord text)
    Apart annotated.leading annotated.calls ∧
      (annotated.leading = [] → annotated.calls ≠ [] → afterWord = false) := by
  fun_induction LinePiece.read afterWord text with
  | case1 afterWord => simp [ofPieces, Apart]
  | case2 first rest inductionHypothesis =>
      refine ⟨inductionHypothesis.1.append [first] ?_, by simp [ofPieces]⟩
      simpa using inductionHypothesis.2
  | case3 afterWord first rest notAfter written after found inductionHypothesis =>
      refine ⟨?_, fun _ _ => (Bool.not_eq_true _).mp notAfter⟩
      rw [ofPieces]
      cases Keyword.find? written.name with
      | none =>
          refine inductionHypothesis.1.append written.text fun _ _ c last => ?_
          have closing : c = ')' := by
            simpa [Call.text, List.getLast?_append, List.getLast?_cons, eq_comm] using last
          subst closing
          decide
      | some keyword => exact ⟨by simp, inductionHypothesis.1⟩
  | case4 afterWord first rest _ uncalled inductionHypothesis =>
      refine ⟨inductionHypothesis.1.append [first] ?_, by simp [ofPieces]⟩
      simpa using inductionHypothesis.2

/-- Literal text between two calls leaves the reader of names where it was, or in
no name. -/
theorem runAfter_literalBetween {before : Text} (afterStart : Bool)
    (apart : ∀ c ∈ before.getLast?, Text.isWord c = false) {run : Nat} (few : run < 2) :
    Text.runAfter run (Literal.encode (literalBetween afterStart .placeholder before)) < 2 := by
  have kept : literalBetween afterStart .placeholder before <:+ before := by
    cases afterStart with
    | true => exact List.dropWhile_suffix _
    | false => exact List.suffix_rfl
  obtain ⟨front, same⟩ := kept
  by_cases nothing : literalBetween afterStart .placeholder before = []
  · rw [nothing]
    simpa [Literal.encode, Literal.units, Text.runAfter] using few
  · rw [Literal.runAfter_encode nothing]
    · decide
    · intro c last
      have ends : c ∈ before.getLast? := by
        rw [← same]
        exact List.mem_getLast?_append_of_mem_getLast? last
      rw [← Bool.not_eq_true]
      intro word
      exact absurd (Text.isWord_of_isLowerWord word) (by simp [apart c ends])

/-- The statement of a line opens no call. -/
theorem opensCall_expandFrom {opening afterStart : Bool} {bound : List Text} {before : Text}
    {calls : List KeywordCall} {parts : List ExpandedPart}
    (expanded : expandFrom opening afterStart bound before calls = .ok parts)
    (known : ∀ call ∈ calls, call.keyword ∈ Keyword.all) (apart : Apart before calls)
    {run : Nat} (few : run < 2) :
    Text.opensCall run (parts.flatMap ExpandedPart.statement) = false := by
  -- Between two parts, at most one character of a name is open; an inlined group needs two.
  induction calls generalizing opening afterStart bound before parts run with
  | nil =>
      cases expanded
      simpa [ExpandedPart.statement] using Literal.opensCall_encode _ run
  | cons call calls inductionHypothesis =>
      obtain ⟨placed, part, rest, made, -, later, rfl⟩ := expandFrom_cons_eq_ok_iff.1 expanded
      have keyword := known call (by simp)
      rw [List.flatMap_cons, List.flatMap_cons, Text.opensCall_append, Text.opensCall_append,
        ExpandedPart.statement, Literal.opensCall_encode, Bool.false_or]
      have step : ∀ text, text = literalBetween afterStart call.keyword.role before →
          Text.opensCall (Text.runAfter run (Literal.encode text)) part.statement = false ∧
            Text.runAfter (Text.runAfter run (Literal.encode text)) part.statement < 2 := by
        rintro text rfl
        cases role : call.keyword.role with
        | placeholder =>
            exact ExpandedPart.opensCall_of_ofCall keyword made
              (runAfter_literalBetween afterStart apart.1 few)
        | lineStart =>
            have anchor : call.keyword.isAnchor = true := by simp [Keyword.isAnchor, role]
            rw [ExpandedPart.eq_inline_of_ofCall anchor made]
            exact Keyword.opensCall_anchor keyword anchor _
        | lineEnd =>
            have anchor : call.keyword.isAnchor = true := by simp [Keyword.isAnchor, role]
            rw [ExpandedPart.eq_inline_of_ofCall anchor made]
            exact Keyword.opensCall_anchor keyword anchor _
      rw [(step _ rfl).1, Bool.false_or]
      exact inductionHypothesis later (fun other member => known other (by simp [member])) apart.2
        (step _ rfl).2

end AnnotatedText

/-- The statement that a content expands to calls no keyword. -/
theorem hasKeywordCall_statement {judge : PatternJudge} {content : Text} {ignoreCase : Bool}
    {expansion : Expansion} (expanded : expandWith judge content ignoreCase = .ok expansion) :
    hasKeywordCall expansion.text = false := by
  obtain ⟨parts, found, -, same, -⟩ := exists_parts_of_expandWith expanded
  have quiet : Text.opensCall 0 expansion.text = false := by
    have flag : ∀ ignoreCase, Text.opensCall 0 (flagText ignoreCase) = false ∧
        Text.runAfter 0 (flagText ignoreCase) = 0 := by decide
    rw [same, Text.opensCall_append, (flag ignoreCase).1, (flag ignoreCase).2, Bool.false_or]
    exact AnnotatedText.opensCall_expandFrom found
      (fun call member => AnnotatedText.keyword_mem_of_mem_calls member)
      (AnnotatedText.apart_ofPieces false _).1 (by decide)
  by_contra calls
  rw [Bool.not_eq_false] at calls
  rw [LinePiece.opensCall_of_callsKeyword false calls 0] at quiet
  exact absurd quiet (by decide)

end LineTemplate
