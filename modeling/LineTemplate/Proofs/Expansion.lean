import LineTemplate.Annotation.Expansion
import Mathlib.Data.List.Nodup

/-!
Contract: what an expansion that succeeds has done.

Owns:
- the arguments that a call was read with, and the part that they made of it;
- one step of the expansion along the calls of a line;
- the text and the variables of a whole expansion;
- which keywords the calls of a line can have.

Does not own: the form of the texts.
-/

namespace LineTemplate

/-- A computation succeeds exactly when both of its steps do. -/
theorem bind_eq_ok_iff {ε α β : Type} {first : Except ε α} {next : α → Except ε β} {result : β} :
    first >>= next = .ok result ↔ ∃ value, first = .ok value ∧ next value = .ok result := by
  cases first with
  | error cause => simp [bind, Except.bind]
  | ok value => simp [bind, Except.bind]

theorem map_eq_ok_iff {ε α β : Type} {outcome : Except ε α} {image : α → β} {result : β} :
    outcome.map image = .ok result ↔ ∃ value, outcome = .ok value ∧ image value = result := by
  cases outcome with
  | error cause => simp [Except.map]
  | ok value => simp [Except.map]

/-- What an outcome holds is what it succeeds with. -/
theorem eq_ok_of_toOption {ε α : Type} {outcome : Except ε α} {value : α}
    (holds : outcome.toOption = some value) : outcome = .ok value := by
  cases outcome with
  | error cause => simp [Except.toOption] at holds
  | ok other => simpa [Except.toOption] using holds

/-! ### Arguments -/

namespace CallArguments

/-- What one argument adds: a proper name, an alternative that it spells, or an option. -/
theorem add_eq_ok {keyword : Keyword} {known next : CallArguments} {argument : Text}
    (added : add keyword known argument = .ok next) :
    (∃ name, Text.isVariableName name = true ∧ next = { known with name := some name }) ∨
    (∃ alternative, (∀ c ∈ alternative, c ∈ argument) ∧
      next = { known with alternatives := known.alternatives ++ [alternative] }) ∨
    ∃ option, next = { known with options := known.options ++ [option] } := by
  unfold add at added
  split at added
  · rename_i name named
    split at added
    · rename_i proper
      cases added
      exact .inl ⟨name, proper, rfl⟩
    · cases added
  · split at added
    · cases added
      exact .inr (.inl ⟨[], by simp, rfl⟩)
    · split at added
      · rename_i alternative spelled
        cases added
        rw [List.isPrefixOf?_eq_some_iff_append_eq] at spelled
        refine .inr (.inl ⟨alternative, ?_, rfl⟩)
        intro c inside
        rw [← spelled]
        exact List.mem_append_right _ inside
      · split at added
        · rename_i option found
          cases added
          exact .inr (.inr ⟨option, rfl⟩)
        · cases added

/-- What holds of no arguments and is kept by each argument that is added holds of the
arguments of a call. -/
theorem read_induction {property : CallArguments → Prop} {keyword : Keyword} {arguments : Text}
    {known : CallArguments} (start : property empty)
    (added : ∀ known argument next, argument ∈ split arguments → property known →
      add keyword known argument = .ok next → property next)
    (found : read keyword arguments = .ok known) : property known := by
  have run : ∀ (texts : List Text) (first : CallArguments),
      (∀ argument ∈ texts, argument ∈ split arguments) → property first →
        texts.foldlM (add keyword) first = .ok known → property known := by
    intro texts
    induction texts with
    | nil =>
        intro first _ holds folded
        cases folded
        exact holds
    | cons argument texts inductionHypothesis =>
        intro first among holds folded
        obtain ⟨member, others⟩ := List.forall_mem_cons.mp among
        rw [List.foldlM_cons] at folded
        obtain ⟨next, made, rest⟩ := bind_eq_ok_iff.mp folded
        exact inductionHypothesis next others (added first argument next member holds made) rest
  exact run (split arguments) empty (fun _ member => member) start found

theorem isVariableName_of_read {keyword : Keyword} {arguments : Text} {known : CallArguments}
    (found : read keyword arguments = .ok known) :
    ∀ name ∈ known.name, Text.isVariableName name := by
  apply read_induction _ _ found
  · intro name named
    cases named
  · intro known argument next _ proper added
    rcases add_eq_ok added with ⟨name, isName, rfl⟩ | ⟨_, -, rfl⟩ | ⟨_, rfl⟩
    · intro other named
      cases named
      exact isName
    · exact proper
    · exact proper

/-- With alternatives, the pattern is a group: the keyword's pattern, and each
alternative behind a bar. -/
theorem pattern_of_alternatives (keyword : Keyword) {arguments : CallArguments}
    (filled : arguments.alternatives.isEmpty = false) :
    pattern keyword arguments =
      "(?:".toList ++ (keyword.pattern ++
        arguments.alternatives.flatMap fun alternative => '|' :: Literal.escape alternative) ++
          [')'] := by
  have listed : ∀ (words : List Text) (word : Text),
      ['|'].intercalate (word :: words.map Literal.escape) =
        word ++ words.flatMap fun other => '|' :: Literal.escape other := by
    intro words
    induction words with
    | nil => simp
    | cons other words inductionHypothesis =>
        intro word
        rw [List.map_cons, List.intercalate_cons_cons, inductionHypothesis, List.flatMap_cons]
        simp
  rw [pattern, filled, if_neg Bool.false_ne_true, listed]

end CallArguments

/-! ### Calls -/

namespace Keyword

theorem pattern_of_lineStart {keyword : Keyword} (known : keyword ∈ all)
    (role : keyword.role = .lineStart) : keyword.pattern = ['^'] := by
  have checked : ∀ keyword ∈ all, keyword.role = .lineStart → keyword.pattern = ['^'] := by decide
  exact checked keyword known role

theorem pattern_of_lineEnd {keyword : Keyword} (known : keyword ∈ all)
    (role : keyword.role = .lineEnd) : keyword.pattern = ['$'] := by
  have checked : ∀ keyword ∈ all, keyword.role = .lineEnd → keyword.pattern = ['$'] := by decide
  exact checked keyword known role

end Keyword

namespace Variable

theorem name_foldl_addOption (captured : Variable) (options : List ValueOption) :
    (options.foldl addOption captured).name = captured.name := by
  induction options generalizing captured with
  | nil => rfl
  | cons option options inductionHypothesis =>
      rw [List.foldl_cons, inductionHypothesis, addOption]
      split <;> rfl

theorem pattern_foldl_addOption (captured : Variable) (options : List ValueOption) :
    (options.foldl addOption captured).pattern = captured.pattern := by
  induction options generalizing captured with
  | nil => rfl
  | cons option options inductionHypothesis =>
      rw [List.foldl_cons, inductionHypothesis, addOption]
      split <;> rfl

end Variable

namespace ExpandedPart

/-- What a call expands to: an anchor to its pattern, a call without a name to the
pattern that its arguments make, and a call with a name to a variable. -/
theorem ofCall_eq_ok {call : KeywordCall} {part : ExpandedPart}
    (expanded : ofCall call = .ok part) :
    ∃ known, CallArguments.read call.keyword call.arguments = .ok known ∧
      ((call.keyword.isAnchor = true ∧ part = .inline call.keyword.pattern) ∨
        (call.keyword.isAnchor = false ∧
          part = .inline (CallArguments.pattern call.keyword known)) ∨
        (call.keyword.isAnchor = false ∧ ∃ captured : Variable,
          known.name = some captured.name ∧
          captured.pattern = CallArguments.pattern call.keyword known ∧
          part = .capture captured)) := by
  obtain ⟨known, arguments, made⟩ := bind_eq_ok_iff.1 expanded
  refine ⟨known, arguments, ?_⟩
  split at made
  · rename_i anchor
    split at made
    · cases made
    · cases made
      exact .inl ⟨anchor, rfl⟩
  · rename_i placeholder
    rw [Bool.not_eq_true] at placeholder
    split at made
    · rename_i name named
      cases made
      refine .inr (.inr ⟨placeholder, _, ?_, ?_, rfl⟩)
      · rw [Variable.name_foldl_addOption, named]
      · rw [Variable.pattern_foldl_addOption]
    · cases made
      exact .inr (.inl ⟨placeholder, rfl⟩)

theorem eq_inline_of_ofCall {call : KeywordCall} {part : ExpandedPart}
    (anchor : call.keyword.isAnchor = true) (expanded : ofCall call = .ok part) :
    part = .inline call.keyword.pattern := by
  obtain ⟨_, -, ⟨-, same⟩ | ⟨placeholder, -⟩ | ⟨placeholder, -⟩⟩ := ofCall_eq_ok expanded
  · exact same
  · rw [anchor] at placeholder
    exact absurd placeholder (by decide)
  · rw [anchor] at placeholder
    exact absurd placeholder (by decide)

def boundNames (part : ExpandedPart) : List Text := part.captured?.toList.map Variable.name

theorem checkFresh_eq_ok_iff {bound : List Text} {part : ExpandedPart} :
    part.checkFresh bound = .ok () ↔ ∀ name ∈ part.boundNames, name ∉ bound := by
  cases part with
  | literal text => simp [checkFresh, boundNames, captured?]
  | inline pattern => simp [checkFresh, boundNames, captured?]
  | capture captured =>
      rw [checkFresh]
      split <;> simp_all [boundNames, captured?]

end ExpandedPart

/-! ### Lines -/

namespace AnnotatedText

/-- One call of a line: it stands where it may, expands to a part that binds no
name twice, and the rest of the line expands after it. -/
theorem expandFrom_cons_eq_ok_iff {opening afterStart : Bool} {bound : List Text} {before : Text}
    {call : KeywordCall} {calls : List KeywordCall} {parts : List ExpandedPart} :
    expandFrom opening afterStart bound before (call :: calls) = .ok parts ↔
      isMisplaced opening before call calls = false ∧
        ∃ part rest, ExpandedPart.ofCall call = .ok part ∧
          (∀ name ∈ part.boundNames, name ∉ bound) ∧
          expandFrom false (call.keyword.role = .lineStart) (bound ++ part.boundNames)
            call.following calls = .ok rest ∧
          parts =
            .literal (literalBetween afterStart call.keyword.role before) :: part :: rest := by
  rw [expandFrom]
  cases misplaced : isMisplaced opening before call calls with
  | true => simp
  | false =>
      simp only [Bool.false_eq_true, if_false, bind_eq_ok_iff, true_and]
      constructor
      · rintro ⟨part, expanded, _, fresh, rest, later, same⟩
        cases same
        exact ⟨part, rest, expanded, ExpandedPart.checkFresh_eq_ok_iff.1 fresh, later, rfl⟩
      · rintro ⟨part, rest, expanded, fresh, later, rfl⟩
        exact ⟨part, expanded, (), ExpandedPart.checkFresh_eq_ok_iff.2 fresh, rest, later, rfl⟩

/-- No name is bound twice, and none that was bound before. -/
theorem nodup_boundNames_of_expandFrom {opening afterStart : Bool} {bound : List Text}
    {before : Text} {calls : List KeywordCall} {parts : List ExpandedPart}
    (expanded : expandFrom opening afterStart bound before calls = .ok parts) :
    (parts.flatMap ExpandedPart.boundNames).Nodup ∧
      ∀ name ∈ parts.flatMap ExpandedPart.boundNames, name ∉ bound := by
  induction calls generalizing opening afterStart bound before parts with
  | nil =>
      cases expanded
      simp [ExpandedPart.boundNames, ExpandedPart.captured?]
  | cons call calls inductionHypothesis =>
      obtain ⟨-, part, rest, -, fresh, restExpanded, rfl⟩ := expandFrom_cons_eq_ok_iff.1 expanded
      obtain ⟨restNodup, restFresh⟩ := inductionHypothesis restExpanded
      have single : part.boundNames.Nodup := by
        cases part with
        | capture captured => exact List.nodup_singleton captured.name
        | _ => exact List.nodup_nil
      have silent : ∀ text, (ExpandedPart.literal text).boundNames = [] := fun _ => rfl
      rw [List.flatMap_cons, List.flatMap_cons, silent, List.nil_append]
      refine ⟨List.nodup_append.2 ⟨single, restNodup, ?_⟩, ?_⟩
      -- The rest was expanded with the name of the part among those bound.
      · rintro name partBinds other restBinds rfl
        exact restFresh name restBinds (List.mem_append_right _ partBinds)
      · intro name member
        rcases List.mem_append.1 member with partBinds | restBinds
        · exact fresh name partBinds
        · exact fun earlier => restFresh name restBinds (List.mem_append_left _ earlier)

/-- What is true of literal parts and of the parts of calls is true of every part. -/
theorem forall_parts_of_expandFrom {property : ExpandedPart → Prop} {calls : List KeywordCall}
    (literal : ∀ text, property (.literal text))
    (called : ∀ call ∈ calls, ∀ part, ExpandedPart.ofCall call = .ok part → property part)
    {opening afterStart : Bool} {bound : List Text} {before : Text} {parts : List ExpandedPart}
    (expanded : expandFrom opening afterStart bound before calls = .ok parts) :
    ∀ part ∈ parts, property part := by
  induction calls generalizing opening afterStart bound before parts with
  | nil =>
      cases expanded
      simpa using literal _
  | cons call calls inductionHypothesis =>
      obtain ⟨-, part, rest, callExpanded, -, restExpanded, rfl⟩ :=
        expandFrom_cons_eq_ok_iff.1 expanded
      simp only [List.forall_mem_cons]
      exact ⟨literal _, called call (by simp) part callExpanded,
        inductionHypothesis (fun other member => called other (by simp [member])) restExpanded⟩

theorem keyword_mem_of_mem_calls {pieces : List LinePiece} {call : KeywordCall}
    (member : call ∈ (ofPieces pieces).calls) : call.keyword ∈ Keyword.all := by
  induction pieces with
  | nil => simp [ofPieces] at member
  | cons piece pieces inductionHypothesis =>
      cases piece with
      | char c => exact inductionHypothesis member
      | call written =>
          rw [ofPieces] at member
          split at member
          · exact inductionHypothesis member
          · rename_i keyword found
            rcases List.mem_cons.1 member with rfl | later
            · exact List.mem_of_find?_eq_some found
            · exact inductionHypothesis later

end AnnotatedText

/-- The variables that the parts of a line capture. -/
def capturedVariables (parts : List ExpandedPart) : List Variable :=
  parts.filterMap ExpandedPart.captured?

theorem map_name_capturedVariables (parts : List ExpandedPart) :
    (capturedVariables parts).map Variable.name = parts.flatMap ExpandedPart.boundNames := by
  induction parts with
  | nil => rfl
  | cons part parts inductionHypothesis =>
      rw [List.flatMap_cons, ← inductionHypothesis]
      cases part <;> rfl

/-- What the engine gives away is an expansion whose probe the judge accepted. -/
theorem exists_parts_of_expandWith {judge : PatternJudge} {content : Text} {ignoreCase : Bool}
    {expansion : Expansion} (expanded : expandWith judge content ignoreCase = .ok expansion) :
    ∃ parts, (AnnotatedText.ofText (Literal.withoutAnchor content)).expand = .ok parts ∧
      judge (flagText ignoreCase ++ parts.flatMap ExpandedPart.probe) = none ∧
      expansion.text = flagText ignoreCase ++ parts.flatMap ExpandedPart.statement ∧
      expansion.captured = parts.filterMap ExpandedPart.captured? := by
  obtain ⟨parts, found, made⟩ := bind_eq_ok_iff.1 expanded
  refine ⟨parts, found, ?_⟩
  dsimp only at made
  cases judged : judge (flagText ignoreCase ++ parts.flatMap ExpandedPart.probe) with
  | some reason =>
      rw [judged] at made
      cases made
  | none =>
      rw [judged] at made
      cases bound : parts.filterMap ExpandedPart.captured? with
      | nil =>
          rw [bound] at made
          cases made
          exact ⟨rfl, rfl, rfl⟩
      | cons captured others =>
          rw [bound] at made
          cases made
          exact ⟨rfl, rfl, rfl⟩

/-- The judgement that an expansion fails with is that of its probe. -/
theorem judge_of_expandWith_error {judge : PatternJudge} {content : Text} {ignoreCase : Bool}
    {parts : List ExpandedPart} {statement reason : Text}
    (expanded : (AnnotatedText.ofText (Literal.withoutAnchor content)).expand = .ok parts)
    (failed : expandWith judge content ignoreCase = .error (.invalidPattern statement reason)) :
    judge (flagText ignoreCase ++ parts.flatMap ExpandedPart.probe) = some reason := by
  unfold expandWith at failed
  rw [expanded] at failed
  dsimp only [bind, Except.bind] at failed
  cases judged : judge (flagText ignoreCase ++ parts.flatMap ExpandedPart.probe) with
  | some other =>
      rw [judged] at failed
      cases failed
      rfl
  | none =>
      rw [judged] at failed
      cases bound : parts.filterMap ExpandedPart.captured? with
      | nil =>
          rw [bound] at failed
          cases failed
      | cons captured others =>
          rw [bound] at failed
          cases failed

/-- An expansion that captures nothing is plain. -/
theorem eq_plain_of_expandWith {judge : PatternJudge} {content : Text} {ignoreCase : Bool}
    {expansion : Expansion}
    (expanded : expandWith judge content ignoreCase = .ok expansion)
    (silent : expansion.captured = []) : expansion = .plain expansion.text := by
  obtain ⟨parts, -, made⟩ := bind_eq_ok_iff.1 expanded
  dsimp only at made
  split at made
  · cases made
  · split at made
    · cases made
      rfl
    · rename_i bound
      cases made
      exact absurd silent bound

end LineTemplate
