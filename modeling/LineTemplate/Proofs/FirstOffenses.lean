import LineTemplate.Proofs.CallSites
import LineTemplate.Proofs.ChangedArguments
import LineTemplate.Proofs.Probes

/-!
Contract: how the expansion of a content ends.

Owns:
- the first offence among calls, as that of the leftmost call with one;
- that arguments of unknown names do not matter for it;
- `expandWith_endsByFirstOffense`: an expansion fails with the first offence of its calls, or
  else with the judgement of its probe.

Does not own: what a judge refuses.
-/

namespace LineTemplate

/-- Whether a cause is the offence of a call; the only other one is the judgement of the
probe. -/
def AnnotationError.isOffense : AnnotationError → Bool
  | .misplacedAnchor _ => true
  | .invalidVariableName _ _ => true
  | .unknownArgument _ _ => true
  | .anchorWithVariable _ => true
  | .repeatedVariable _ => true
  | .invalidPattern _ _ => false

namespace CallSite

/-- The names that calls bind, each the last one among the arguments of its call. -/
def boundNames (sites : List CallSite) : List Text := sites.filterMap lastName?

/-- No call has an offence where it stands. -/
def InOrder (sites : List CallSite) : Prop :=
  ∀ earlier site later, sites = earlier ++ site :: later →
    site.offense? (boundNames earlier) = none

/-! ### The leftmost call -/

theorem firstOffense?_append (bound : List Text) (earlier sites : List CallSite) :
    firstOffense? bound (earlier ++ sites) =
      (firstOffense? bound earlier).or (firstOffense? (bound ++ boundNames earlier) sites) := by
  induction earlier generalizing bound with
  | nil => simp [firstOffense?, boundNames]
  | cons site earlier inductionHypothesis =>
      have names : bound ++ site.lastName?.toList ++ boundNames earlier =
          bound ++ boundNames (site :: earlier) := by
        rw [List.append_assoc, boundNames, boundNames, List.filterMap_cons]
        cases site.lastName? <;> rfl
      rw [List.cons_append, firstOffense?, inductionHypothesis, firstOffense?, names,
        Option.or_assoc]

/-- Behind calls without an offence, the offence of a call is the first one. -/
theorem firstOffense?_of_offense? {earlier : List CallSite} {site : CallSite}
    {cause : AnnotationError} (sound : firstOffense? [] earlier = none)
    (offense : site.offense? (boundNames earlier) = some cause) (later : List CallSite) :
    firstOffense? [] (earlier ++ site :: later) = some cause := by
  rw [firstOffense?_append, sound, Option.none_or, List.nil_append, firstOffense?, offense]
  rfl

theorem exists_offense?_of_firstOffense? {sites : List CallSite} {cause : AnnotationError}
    (found : firstOffense? [] sites = some cause) :
    ∃ earlier site later, sites = earlier ++ site :: later ∧
      firstOffense? [] earlier = none ∧ site.offense? (boundNames earlier) = some cause := by
  induction sites using List.reverseRecOn with
  | nil => cases found
  | append_singleton earlier site inductionHypothesis =>
      rw [firstOffense?_append] at found
      cases first : firstOffense? [] earlier with
      | some other =>
          rw [first] at found
          obtain ⟨before, bad, after, rfl, sound, offense⟩ :=
            inductionHypothesis (first.trans found)
          exact ⟨before, bad, after ++ [site], by simp, sound, offense⟩
      | none =>
          rw [first, Option.none_or, List.nil_append, firstOffense?, firstOffense?,
            Option.or_none] at found
          exact ⟨earlier, site, [], rfl, first, found⟩

theorem firstOffense?_eq_none_iff {sites : List CallSite} :
    firstOffense? [] sites = none ↔ InOrder sites := by
  constructor
  · rintro sound earlier site later rfl
    rw [firstOffense?_append, Option.or_eq_none_iff] at sound
    cases offense : site.offense? (boundNames earlier) with
    | none => rfl
    | some cause =>
        have found := firstOffense?_of_offense? sound.1 offense later
        rw [firstOffense?_append, sound.1, sound.2] at found
        cases found
  · intro inOrder
    by_contra found
    obtain ⟨cause, found⟩ := Option.ne_none_iff_exists'.1 found
    obtain ⟨earlier, site, later, same, -, offense⟩ := exists_offense?_of_firstOffense? found
    rw [inOrder earlier site later same] at offense
    cases offense

/-! ### Unknown names -/

/-- Calls that differ at most in the text around them, and there not as far as it matters. -/
structure Alike (site other : CallSite) : Prop where
  keyword : other.keyword = site.keyword
  arguments : other.arguments = site.arguments
  inside : other.isInside = site.isInside

namespace Alike

variable {site other : CallSite}

theorem lastName?_eq (alike : Alike site other) : other.lastName? = site.lastName? := by
  rw [lastName?, lastName?, argumentTexts, argumentTexts, alike.arguments]

theorem offense?_eq (alike : Alike site other) (bound : List Text) :
    other.offense? bound = site.offense? bound := by
  rw [offense?, offense?, alike.inside, alike.keyword, alike.lastName?_eq, argumentTexts,
    argumentTexts, alike.arguments]

theorem firstOffense?_eq {sites others : List CallSite} (alike : List.Forall₂ Alike sites others)
    (bound : List Text) : firstOffense? bound others = firstOffense? bound sites := by
  induction alike generalizing bound with
  | nil => rfl
  | cons first later inductionHypothesis =>
      rw [firstOffense?, firstOffense?, first.offense?_eq, first.lastName?_eq, inductionHypothesis]

end Alike

end CallSite

/-- Arguments of names that are not known. -/
def Call.IsUnknown (written : Call) (_ : Text) : Prop := Keyword.find? written.name = none

namespace LinePiece

theorem isAllBlank_text_of_changed {allowed : Call → Text → Prop} {piece other : LinePiece}
    (changed : Changed allowed piece other) :
    Text.isAllBlank other.text = Text.isAllBlank piece.text := by
  cases changed with
  | same => rfl
  | call flat change =>
      have solid : Text.isBlank '(' = false := by decide
      simp [text, Call.text, Text.isAllBlank, solid]

theorem isAllBlank_flatMap_text_of_changed {allowed : Call → Text → Prop}
    {pieces others : List LinePiece} (changed : List.Forall₂ (Changed allowed) pieces others) :
    Text.isAllBlank (others.flatMap text) = Text.isAllBlank (pieces.flatMap text) := by
  induction changed with
  | nil => rfl
  | cons first later inductionHypothesis =>
      rw [List.flatMap_cons, List.flatMap_cons, Text.isAllBlank_append, Text.isAllBlank_append,
        inductionHypothesis, isAllBlank_text_of_changed first]

end LinePiece

namespace CallSite

theorem alike_ofPieces {before otherBefore : Text} {pieces others : List LinePiece}
    (blank : Text.isAllBlank otherBefore = Text.isAllBlank before)
    (changed : List.Forall₂ (LinePiece.Changed Call.IsUnknown) pieces others) :
    List.Forall₂ Alike (ofPieces before pieces) (ofPieces otherBefore others) := by
  induction changed generalizing before otherBefore with
  | nil => exact .nil
  | @cons piece other pieces others first later inductionHypothesis =>
      have longer : Text.isAllBlank (otherBefore ++ other.text) =
          Text.isAllBlank (before ++ piece.text) := by
        rw [Text.isAllBlank_append, Text.isAllBlank_append, blank,
          LinePiece.isAllBlank_text_of_changed first]
      have rest := inductionHypothesis longer
      cases first with
      | call flat unknown =>
          have unread : Keyword.find? _ = none := unknown
          simpa only [ofPieces, unread] using rest
      | same =>
          cases piece with
          | char c => exact rest
          | call written =>
              cases found : Keyword.find? written.name with
              | none => simpa only [ofPieces, found] using rest
              | some keyword =>
                  simp only [ofPieces, found]
                  refine .cons ⟨rfl, rfl, ?_⟩ rest
                  have after := LinePiece.isAllBlank_flatMap_text_of_changed later
                  simp only [isInside, blank, after]

end CallSite

/-- The offence of a content does not depend on the arguments of unknown names. -/
theorem contentOffense?_of_unknown {content other : Text}
    (changes : ChangesArguments Call.IsUnknown content other) :
    contentOffense? other = contentOffense? content :=
  CallSite.Alike.firstOffense?_eq
    (CallSite.alike_ofPieces rfl changes.withoutAnchor.forall₂_ofText) []

/-! ### Expansions -/

section Outcome

variable {judge : PatternJudge} {content : Text} {ignoreCase : Bool} {cause : AnnotationError}

theorem isOffense_of_contentOffense? (found : contentOffense? content = some cause) :
    cause.isOffense = true := by
  have failed := AnnotatedText.expand_of_firstOffense? (Literal.withoutAnchor content)
  rw [contentOffense?] at found
  rw [found] at failed
  have unjudged := AnnotatedText.unjudged_expandFrom true false []
    (AnnotatedText.ofText (Literal.withoutAnchor content)).leading
    (AnnotatedText.ofText (Literal.withoutAnchor content)).calls
  cases cause with
  | invalidPattern statement reason => exact absurd failed (unjudged statement reason)
  | _ => rfl

theorem expandWith_of_contentOffense? (found : contentOffense? content = some cause) :
    expandWith judge content ignoreCase = .error cause := by
  have failed := AnnotatedText.expand_of_firstOffense? (Literal.withoutAnchor content)
  rw [contentOffense?] at found
  rw [found] at failed
  rw [expandWith, failed]
  rfl

/-- Without an offence of a call, what an expansion fails with is the judgement of its probe. -/
theorem expandWith_of_sound (judge : PatternJudge) (ignoreCase : Bool)
    (sound : contentOffense? content = none) :
    ∃ parts, (AnnotatedText.ofText (Literal.withoutAnchor content)).expand = .ok parts ∧
      ∀ cause, expandWith judge content ignoreCase = .error cause ↔
        ∃ reason, judge (flagText ignoreCase ++ parts.flatMap ExpandedPart.probe) = some reason ∧
          cause = .invalidPattern (flagText ignoreCase ++ parts.flatMap ExpandedPart.statement)
            reason := by
  have expanded := AnnotatedText.expand_of_firstOffense? (Literal.withoutAnchor content)
  rw [contentOffense?] at sound
  rw [sound] at expanded
  obtain ⟨parts, expanded⟩ := expanded
  refine ⟨parts, expanded, fun cause => ?_⟩
  rw [expandWith, expanded]
  dsimp only [bind, Except.bind]
  cases judge (flagText ignoreCase ++ parts.flatMap ExpandedPart.probe) with
  | some reason => simp [eq_comm]
  | none =>
      dsimp only
      split <;> simp

/-- The offences that an expansion fails with are those of its content. -/
theorem expandWith_eq_error_iff (judge : PatternJudge) (content : Text) (ignoreCase : Bool)
    (offense : cause.isOffense = true) :
    expandWith judge content ignoreCase = .error cause ↔ contentOffense? content = some cause := by
  refine ⟨fun failed => ?_, expandWith_of_contentOffense?⟩
  cases found : contentOffense? content with
  | some other =>
      rw [expandWith_of_contentOffense? found] at failed
      cases failed
      rfl
  | none =>
      obtain ⟨parts, -, errors⟩ := expandWith_of_sound judge ignoreCase found
      obtain ⟨reason, -, rfl⟩ := (errors cause).1 failed
      cases offense

/-- How the expansion of a content ends: with the offence of the leftmost call that has one, or
else with the judgement of the probe, if the judge has a reason to refuse it. -/
structure EndsByFirstOffense (judge : PatternJudge) (content : Text) (ignoreCase : Bool)
    (engine : Engine) : Prop where
  offends : (∃ cause, engine content ignoreCase = .error cause ∧ cause.isOffense = true) ↔
    ∃ earlier site later,
      CallSite.ofText (Literal.withoutAnchor content) = earlier ++ site :: later ∧
        (site.offense? (CallSite.boundNames earlier)).isSome
  leftmost : ∀ earlier site later,
    CallSite.ofText (Literal.withoutAnchor content) = earlier ++ site :: later →
      CallSite.InOrder earlier → ∀ cause,
        site.offense? (CallSite.boundNames earlier) = some cause →
          engine content ignoreCase = .error cause
  unknown : ∀ other, ChangesArguments Call.IsUnknown content other →
    ∀ cause, cause.isOffense = true →
      (engine content ignoreCase = .error cause ↔ engine other ignoreCase = .error cause)
  judged : CallSite.InOrder (CallSite.ofText (Literal.withoutAnchor content)) →
    ∃ parts, (AnnotatedText.ofText (Literal.withoutAnchor content)).expand = .ok parts ∧
      ∀ cause, engine content ignoreCase = .error cause ↔
        ∃ reason, judge (flagText ignoreCase ++ parts.flatMap ExpandedPart.probe) = some reason ∧
          cause = .invalidPattern (flagText ignoreCase ++ parts.flatMap ExpandedPart.statement)
            reason

end Outcome

/-- Every expansion ends so, whatever the judge. -/
theorem expandWith_endsByFirstOffense (judge : PatternJudge) (content : Text)
    (ignoreCase : Bool) : EndsByFirstOffense judge content ignoreCase (expandWith judge) where
  offends := by
    constructor
    · rintro ⟨cause, failed, offense⟩
      have found := (expandWith_eq_error_iff judge content ignoreCase offense).1 failed
      obtain ⟨earlier, site, later, same, -, bad⟩ :=
        CallSite.exists_offense?_of_firstOffense? found
      exact ⟨earlier, site, later, same, Option.isSome_iff_exists.2 ⟨cause, bad⟩⟩
    · rintro ⟨earlier, site, later, same, bad⟩
      cases found : contentOffense? content with
      | some cause =>
          exact ⟨cause, expandWith_of_contentOffense? found, isOffense_of_contentOffense? found⟩
      | none =>
          rw [CallSite.firstOffense?_eq_none_iff.1 found earlier site later same] at bad
          cases bad
  leftmost := by
    intro earlier site later same inOrder cause offense
    refine expandWith_of_contentOffense? ?_
    rw [contentOffense?, same]
    exact CallSite.firstOffense?_of_offense? (CallSite.firstOffense?_eq_none_iff.2 inOrder)
      offense later
  unknown := by
    intro other changes cause offense
    rw [expandWith_eq_error_iff judge content ignoreCase offense,
      expandWith_eq_error_iff judge other ignoreCase offense, contentOffense?_of_unknown changes]
  judged := fun inOrder =>
    expandWith_of_sound judge ignoreCase (CallSite.firstOffense?_eq_none_iff.2 inOrder)

-- The arguments of a name that is not known are not looked at, and the misplaced anchor comes
-- later.
example : expandWith Pattern.judge "odd(%) word(var_1,up) x start(var_a)".toList false =
    .error (.invalidVariableName "word".toList "1".toList) := by
  decide +kernel

end LineTemplate
