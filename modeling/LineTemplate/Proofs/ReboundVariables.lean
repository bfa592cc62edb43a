import LineTemplate.Proofs.CallSites
import LineTemplate.Proofs.ChangedArguments
import LineTemplate.Proofs.Probes

/-!
Contract: what other arguments of a call change where the call binds the same variable.

Owns:
- `Call.Rebinds`, the arguments that a call may have instead of its own;
- that the parts of a line differ in the pattern and the options of such variables only;
- `expandWith_of_rebinds`: the statement and the names of the variables stay the same.

Does not own: lines with a marker or a directive.
-/

namespace LineTemplate

/-- Other arguments with which a call binds the same variable, one of those named: each of them
has a meaning, and the last name is the same. -/
def Call.Rebinds (names : List Text) (written : Call) (arguments : Text) : Prop :=
  ∃ keyword, Keyword.find? written.name = some keyword ∧
    (∀ argument ∈ CallArguments.split arguments,
      CallSite.argumentOffense? keyword argument = none) ∧
    ∃ name ∈ names, ((CallArguments.split written.arguments).filterMap
        CallSite.boundName?).getLast? = some name ∧
      ((CallArguments.split arguments).filterMap CallSite.boundName?).getLast? = some name

/-- The variable after its call is given other arguments: it keeps its name, and it is the same
if it is not one of those named. -/
structure Variable.Rebound (names : List Text) (captured other : Variable) : Prop where
  name : other.name = captured.name
  kept : captured.name ∉ names → other = captured

/-- A call, and the same one with other arguments for its variable. -/
structure KeywordCall.Rebound (names : List Text) (call other : KeywordCall) : Prop where
  keyword : other.keyword = call.keyword
  following : other.following = call.following
  arguments : other.arguments = call.arguments ∨
    (CallArguments.split other.arguments).findSome?
        (CallSite.argumentOffense? other.keyword) = none ∧
      ∃ name ∈ names, call.lastName? = some name ∧ other.lastName? = some name

/-- Parts that differ in the pattern and the options of a variable at most. -/
inductive ExpandedPart.Rebound (names : List Text) : ExpandedPart → ExpandedPart → Prop
  | same (part : ExpandedPart) : Rebound names part part
  | capture {captured other : Variable} (rebound : captured.Rebound names other) :
      Rebound names (.capture captured) (.capture other)

variable {names : List Text}

theorem Variable.Rebound.refl (names : List Text) (captured : Variable) :
    captured.Rebound names captured := ⟨rfl, fun _ => rfl⟩

namespace ExpandedPart

variable {parts others : List ExpandedPart}

theorem Rebound.statement_eq {part other : ExpandedPart} (rebound : Rebound names part other) :
    other.statement = part.statement := by
  cases rebound with
  | same => rfl
  | capture rebound => rw [statement, statement, Variable.reference, Variable.reference, rebound.name]

theorem Rebound.boundNames_eq {part other : ExpandedPart} (rebound : Rebound names part other) :
    other.boundNames = part.boundNames := by
  cases rebound with
  | same => rfl
  | capture rebound => exact congrArg (fun name => [name]) rebound.name

theorem flatMap_statement_of_rebound (rebound : List.Forall₂ (Rebound names) parts others) :
    others.flatMap statement = parts.flatMap statement := by
  induction rebound with
  | nil => rfl
  | cons first later inductionHypothesis =>
      rw [List.flatMap_cons, List.flatMap_cons, first.statement_eq, inductionHypothesis]

theorem capturedVariables_of_rebound (rebound : List.Forall₂ (Rebound names) parts others) :
    List.Forall₂ (Variable.Rebound names) (capturedVariables parts) (capturedVariables others) := by
  induction rebound with
  | nil => exact .nil
  | @cons part other parts others first later inductionHypothesis =>
      cases first with
      | capture rebound => exact .cons rebound inductionHypothesis
      | same =>
          cases part with
          | capture captured => exact .cons (.refl names captured) inductionHypothesis
          | literal text => exact inductionHypothesis
          | inline pattern => exact inductionHypothesis

end ExpandedPart

/-! ### Calls -/

/-- A call that gives a part and binds a name captures it. -/
theorem ExpandedPart.exists_captured_of_lastName? {call : KeywordCall} {part : ExpandedPart}
    {name : Text} (expanded : ofCall call = .ok part) (last : call.lastName? = some name) :
    call.keyword.isAnchor = false ∧
      ∃ captured : Variable, captured.name = name ∧ part = .capture captured := by
  have sound : (CallArguments.split call.arguments).findSome?
      (CallSite.argumentOffense? call.keyword) = none := by
    by_contra bad
    obtain ⟨cause, bad⟩ := Option.ne_none_iff_exists'.1 bad
    rw [ofCall, CallArguments.read_of_offense bad] at expanded
    cases expanded
  cases anchor : call.keyword.isAnchor with
  | true =>
      rw [ofCall_of_anchor sound last anchor] at expanded
      cases expanded
  | false =>
      obtain ⟨captured, named, made⟩ := ofCall_of_named sound last anchor
      rw [made] at expanded
      cases expanded
      exact ⟨rfl, captured, named, rfl⟩

/-- Where a call gives its part, it gives that with other arguments for its variable. -/
theorem KeywordCall.Rebound.exists_part {call other : KeywordCall} {part : ExpandedPart}
    (rebound : call.Rebound names other) (expanded : ExpandedPart.ofCall call = .ok part) :
    ∃ next, ExpandedPart.ofCall other = .ok next ∧ part.Rebound names next := by
  rcases rebound.arguments with same | ⟨sound, name, among, last, stillLast⟩
  · have equal : ExpandedPart.ofCall other = ExpandedPart.ofCall call := by
      rw [ExpandedPart.ofCall, ExpandedPart.ofCall, rebound.keyword, same]
    exact ⟨part, equal.trans expanded, .same part⟩
  · obtain ⟨placeholder, captured, named, rfl⟩ :=
      ExpandedPart.exists_captured_of_lastName? expanded last
    obtain ⟨next, nextNamed, nextMade⟩ := ExpandedPart.ofCall_of_named sound stillLast
      (by rw [rebound.keyword, placeholder])
    refine ⟨_, nextMade, .capture ⟨nextNamed.trans named.symm, fun absent => ?_⟩⟩
    exact absurd (named ▸ among) absent

/-! ### Lines -/

namespace AnnotatedText

theorem isMisplaced_of_rebound {opening : Bool} {before : Text} {call other : KeywordCall}
    {calls others : List KeywordCall} (first : call.Rebound names other)
    (later : List.Forall₂ (KeywordCall.Rebound names) calls others) :
    isMisplaced opening before other others = isMisplaced opening before call calls := by
  have empty : others.isEmpty = calls.isEmpty := by cases later <;> rfl
  rw [isMisplaced, isMisplaced, first.keyword, first.following, empty]

/-- Where a line expands, it expands to the same parts with other arguments for variables, but
for their patterns and options. -/
theorem exists_parts_of_rebound {opening afterStart : Bool} {bound : List Text} {before : Text}
    {calls others : List KeywordCall} {parts : List ExpandedPart}
    (rebound : List.Forall₂ (KeywordCall.Rebound names) calls others)
    (expanded : expandFrom opening afterStart bound before calls = .ok parts) :
    ∃ next, expandFrom opening afterStart bound before others = .ok next ∧
      List.Forall₂ (ExpandedPart.Rebound names) parts next := by
  induction rebound generalizing opening afterStart bound before parts with
  | nil => exact ⟨parts, expanded, List.forall₂_same.2 fun part _ => .same part⟩
  | @cons call other calls others first later inductionHypothesis =>
      obtain ⟨placed, part, rest, made, fresh, behind, rfl⟩ :=
        expandFrom_cons_eq_ok_iff.1 expanded
      obtain ⟨next, nextMade, nextRebound⟩ := first.exists_part made
      obtain ⟨nextRest, nextBehind, restRebound⟩ := inductionHypothesis behind
      refine ⟨_, expandFrom_cons_eq_ok_iff.2 ⟨?_, next, nextRest, nextMade, ?_, ?_, rfl⟩, ?_⟩
      · rw [isMisplaced_of_rebound first later, placed]
      · rwa [nextRebound.boundNames_eq]
      · rwa [first.keyword, first.following, nextRebound.boundNames_eq]
      · rw [first.keyword]
        exact .cons (.same _) (.cons nextRebound restRebound)

end AnnotatedText

/-- Pieces with other arguments for variables are the same literal texts with such calls. -/
theorem AnnotatedText.ofPieces_of_rebinds {pieces others : List LinePiece}
    (changed : List.Forall₂ (LinePiece.Changed (Call.Rebinds names)) pieces others) :
    (ofPieces others).leading = (ofPieces pieces).leading ∧
      List.Forall₂ (KeywordCall.Rebound names) (ofPieces pieces).calls (ofPieces others).calls := by
  induction changed with
  | nil => exact ⟨rfl, .nil⟩
  | @cons piece other pieces others first later inductionHypothesis =>
      obtain ⟨leading, calls⟩ := inductionHypothesis
      cases first with
      | same =>
          cases piece with
          | char c => exact ⟨congrArg (c :: ·) leading, calls⟩
          | call written =>
              rw [ofPieces, ofPieces]
              cases Keyword.find? written.name with
              | none => exact ⟨congrArg (written.text ++ ·) leading, calls⟩
              | some keyword => exact ⟨rfl, .cons ⟨rfl, leading, .inl rfl⟩ calls⟩
      | @call written arguments flat change =>
          obtain ⟨keyword, found, sound, name, among, last, stillLast⟩ := change
          have soundArguments : (CallArguments.split arguments).findSome?
              (CallSite.argumentOffense? keyword) = none := List.findSome?_eq_none_iff.2 sound
          simp only [ofPieces, found]
          exact ⟨trivial, .cons
            ⟨rfl, leading, .inr ⟨soundArguments, name, among, last, stillLast⟩⟩ calls⟩

namespace AnnotatedText

/-- Where other arguments are written for a variable, there is a call that binds one. -/
theorem eq_or_exists_call_of_rebinds {pieces others : List LinePiece}
    (changed : List.Forall₂ (LinePiece.Changed (Call.Rebinds names)) pieces others) :
    others = pieces ∨
      ∃ call ∈ (ofPieces pieces).calls, ∃ name, call.lastName? = some name := by
  induction changed with
  | nil => exact .inl rfl
  | @cons piece other pieces others first later inductionHypothesis =>
      cases first with
      | @call written arguments flat change =>
          obtain ⟨keyword, found, -, name, -, last, -⟩ := change
          right
          rw [ofPieces]
          simp only [found]
          exact ⟨_, List.mem_cons_self, name, last⟩
      | same =>
          rcases inductionHypothesis with rfl | ⟨call, member, binds⟩
          · exact .inl rfl
          · refine .inr ⟨call, ?_, binds⟩
            cases piece with
            | char c => exact member
            | call written =>
                rw [ofPieces]
                cases Keyword.find? written.name with
                | none => exact member
                | some keyword => exact List.mem_cons_of_mem _ member

/-- What a call of a line binds, the line captures. -/
theorem mem_boundNames_of_mem_calls {opening afterStart : Bool} {bound : List Text} {before : Text}
    {calls : List KeywordCall} {parts : List ExpandedPart} {call : KeywordCall} {name : Text}
    (expanded : expandFrom opening afterStart bound before calls = .ok parts)
    (member : call ∈ calls) (last : call.lastName? = some name) :
    name ∈ parts.flatMap ExpandedPart.boundNames := by
  induction calls generalizing opening afterStart bound before parts with
  | nil => cases member
  | cons first calls inductionHypothesis =>
      obtain ⟨-, part, rest, made, -, behind, rfl⟩ := expandFrom_cons_eq_ok_iff.1 expanded
      rw [List.flatMap_cons, List.flatMap_cons]
      refine List.mem_append_right _ ?_
      rcases List.mem_cons.1 member with rfl | later
      · obtain ⟨-, captured, rfl, rfl⟩ := ExpandedPart.exists_captured_of_lastName? made last
        exact List.mem_append_left _ List.mem_cons_self
      · exact List.mem_append_right _ (inductionHypothesis behind later)

end AnnotatedText

/-! ### Expansions -/

section Expansions

variable {judge : PatternJudge} {content other : Text} {ignoreCase : Bool}

theorem expandWith_of_accepted {parts : List ExpandedPart}
    (expanded : (AnnotatedText.ofText (Literal.withoutAnchor content)).expand = .ok parts)
    (accepted : judge (flagText ignoreCase ++ parts.flatMap ExpandedPart.probe) = none)
    (filled : capturedVariables parts ≠ []) :
    expandWith judge content ignoreCase = .ok (.captures (capturedVariables parts)
      (flagText ignoreCase ++ parts.flatMap ExpandedPart.statement)) := by
  rw [expandWith, expanded]
  dsimp only [bind, Except.bind]
  rw [accepted]
  dsimp only
  split
  · rename_i none
    exact absurd none filled
  · rfl

theorem expandWith_of_refused {parts : List ExpandedPart} {reason : Text}
    (expanded : (AnnotatedText.ofText (Literal.withoutAnchor content)).expand = .ok parts)
    (refused : judge (flagText ignoreCase ++ parts.flatMap ExpandedPart.probe) = some reason) :
    expandWith judge content ignoreCase =
      .error (.invalidPattern (flagText ignoreCase ++ parts.flatMap ExpandedPart.statement)
        reason) := by
  rw [expandWith, expanded]
  dsimp only [bind, Except.bind]
  rw [refused]

/-- Other arguments for variables keep the statement of an expansion, and the names in their
order, unless the probe is too large with them. -/
theorem expandWith_of_rebinds {Fits : Pattern → Prop} (sized : judge.ChecksSize Fits)
    (changes : ChangesArguments (Call.Rebinds names) content other)
    {captured : List Variable} {statement : Text}
    (expanded : expandWith judge content ignoreCase = .ok (.captures captured statement)) :
    ∃ others, List.Forall₂ (Variable.Rebound names) captured others ∧
      (expandWith judge other ignoreCase = .ok (.captures others statement) ∨
        expandWith judge other ignoreCase =
          .error (.invalidPattern statement Pattern.Refusal.tooLarge.message)) := by
  obtain ⟨parts, found, -, text, bound⟩ := exists_parts_of_expandWith expanded
  have textGiven : statement = flagText ignoreCase ++ parts.flatMap ExpandedPart.statement := text
  have boundGiven : captured = capturedVariables parts := bound
  obtain ⟨leading, calls⟩ := AnnotatedText.ofPieces_of_rebinds changes.withoutAnchor.forall₂_ofText
  obtain ⟨next, nextFound, rebound⟩ := AnnotatedText.exists_parts_of_rebound calls found
  have nextExpanded :
      (AnnotatedText.ofText (Literal.withoutAnchor other)).expand = .ok next := by
    rw [AnnotatedText.expand, AnnotatedText.ofText, leading]
    exact nextFound
  obtain ⟨pattern, reads⟩ := exists_probeReads
    (fun call member => AnnotatedText.keyword_mem_of_mem_calls member) nextExpanded ignoreCase
  have agree := ExpandedPart.capturedVariables_of_rebound rebound
  rw [textGiven, ← ExpandedPart.flatMap_statement_of_rebound rebound, boundGiven]
  refine ⟨capturedVariables next, agree, ?_⟩
  rcases sized.cases reads.read reads.proper with ⟨-, accepted⟩ | ⟨-, refused⟩
  · refine .inl (expandWith_of_accepted nextExpanded accepted fun none => ?_)
    rw [none, List.forall₂_nil_right_iff] at agree
    have plain := eq_plain_of_expandWith expanded (boundGiven.trans agree)
    cases plain
  · exact .inr (expandWith_of_refused nextExpanded refused)

end Expansions

end LineTemplate
