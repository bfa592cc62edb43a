import LineTemplate.Annotation.Offense
import LineTemplate.Proofs.Calls
import LineTemplate.Proofs.Expansion

/-!
Contract: the offences of calls, against the expansion of a line.

Owns:
- the places of the calls of a line, along the line as it is expanded;
- the arguments of a call, read without an offence or up to the first one;
- `AnnotatedText.expand_of_firstOffense?`: the expansion of a line fails with the first
  offence of its calls, and succeeds where there is none.

Does not own: the judgement of the probe.
-/

namespace LineTemplate

/-- A computation that fails in its first two steps has no third one. -/
theorem bind_eq_error_of_bind {ε α β : Type} {first : Except ε α} {next : α → Except ε Unit}
    {last : α → Except ε β} {cause : ε} (failed : first >>= next = .error cause) :
    (first >>= fun value => next value >>= fun _ => last value) = .error cause := by
  cases first with
  | error other =>
      cases failed
      rfl
  | ok value =>
      have stopped : next value = .error cause := failed
      change next value >>= _ = _
      rw [stopped]
      rfl

/-! ### Places -/

theorem Text.isAllBlank_append (text more : Text) :
    isAllBlank (text ++ more) = (isAllBlank text && isAllBlank more) :=
  List.all_append

theorem Keyword.name_of_find? {name : Text} {keyword : Keyword}
    (found : find? name = some keyword) : keyword.name = name := by
  simpa using List.find?_some found

namespace KeywordCall

/-- The call as it is written. -/
def text (call : KeywordCall) : Text := (⟨call.keyword.name, call.arguments⟩ : Call).text

/-- The call where it stands in its line. -/
def siteAt (call : KeywordCall) (before after : Text) : CallSite :=
  ⟨before, call.keyword, call.arguments, after⟩

/-- The name that the call binds: the last one among its arguments. -/
def lastName? (call : KeywordCall) : Option Text :=
  ((CallArguments.split call.arguments).filterMap CallSite.boundName?).getLast?

/-- Calls as they are written, each with the literal text behind it. -/
def textFrom (calls : List KeywordCall) : Text :=
  calls.flatMap fun call => call.text ++ call.following

theorem not_isAllBlank_text_append (call : KeywordCall) (more : Text) :
    Text.isAllBlank (call.text ++ more) = false := by
  have solid : Text.isBlank ')' = false := by decide
  have closed : Text.isAllBlank [')'] = false := by decide
  simp [text, Call.text, Text.isAllBlank, solid]

end KeywordCall

/-- The pieces of a line, put together, are its literal texts and its calls. -/
theorem AnnotatedText.flatMap_text_eq (pieces : List LinePiece) :
    pieces.flatMap LinePiece.text =
      (ofPieces pieces).leading ++ KeywordCall.textFrom (ofPieces pieces).calls := by
  induction pieces with
  | nil => rfl
  | cons piece pieces inductionHypothesis =>
      rw [List.flatMap_cons, inductionHypothesis]
      cases piece with
      | char c => rfl
      | call written =>
          rw [ofPieces]
          cases found : Keyword.find? written.name with
          | none => simp [LinePiece.text]
          | some keyword =>
              have name := Keyword.name_of_find? found
              simp [LinePiece.text, KeywordCall.textFrom, KeywordCall.text, name]

/-- Pieces hold a call exactly if one of them calls a known keyword. -/
theorem AnnotatedText.isEmpty_calls_ofPieces (pieces : List LinePiece) :
    (ofPieces pieces).calls.isEmpty = !pieces.any fun piece => piece.keyword?.isSome := by
  induction pieces with
  | nil => rfl
  | cons piece pieces inductionHypothesis =>
      cases piece with
      | char c => exact inductionHypothesis
      | call written =>
          rw [List.any_cons, ofPieces, LinePiece.keyword?]
          cases Keyword.find? written.name with
          | none => exact inductionHypothesis
          | some keyword => rfl

theorem AnnotatedText.hasKeywordCall_eq (text : Text) :
    hasKeywordCall text = !(ofText text).calls.isEmpty := by
  rw [ofText, isEmpty_calls_ofPieces, Bool.not_not]
  rfl

namespace CallSite

/-- The places of calls behind the literal text `before`; `front` is all of the line before
that. -/
def ofCalls (front before : Text) : List KeywordCall → List CallSite
  | [] => []
  | call :: calls =>
      call.siteAt (front ++ before) (call.following ++ KeywordCall.textFrom calls) ::
        ofCalls (front ++ before ++ call.text) call.following calls

theorem ofCalls_append (front more before : Text) (calls : List KeywordCall) :
    ofCalls (front ++ more) before calls = ofCalls front (more ++ before) calls := by
  cases calls with
  | nil => rfl
  | cons call calls => simp [ofCalls, KeywordCall.siteAt]

theorem ofPieces_eq_ofCalls (front : Text) (pieces : List LinePiece) :
    ofPieces front pieces =
      ofCalls front (AnnotatedText.ofPieces pieces).leading
        (AnnotatedText.ofPieces pieces).calls := by
  induction pieces generalizing front with
  | nil => rfl
  | cons piece pieces inductionHypothesis =>
      have later := inductionHypothesis (front ++ piece.text)
      cases piece with
      | char c =>
          rw [ofPieces, AnnotatedText.ofPieces]
          exact later.trans (ofCalls_append front [c] _ _)
      | call written =>
          rw [ofPieces, AnnotatedText.ofPieces]
          cases found : Keyword.find? written.name with
          | none => exact later.trans (ofCalls_append front written.text _ _)
          | some keyword =>
              have name := Keyword.name_of_find? found
              rw [later]
              simp [ofCalls, KeywordCall.siteAt, AnnotatedText.flatMap_text_eq, KeywordCall.text,
                LinePiece.text, name]

theorem ofText_eq_ofCalls (text : Text) :
    ofText text =
      ofCalls [] (AnnotatedText.ofText text).leading (AnnotatedText.ofText text).calls :=
  ofPieces_eq_ofCalls [] (LinePiece.ofText text)

/-- A call is misplaced in its line exactly if it is an anchor inside it. -/
theorem isMisplaced_eq_isInside (front before : Text) (call : KeywordCall)
    (calls : List KeywordCall) :
    AnnotatedText.isMisplaced (Text.isAllBlank front) before call calls =
      (call.siteAt (front ++ before)
        (call.following ++ KeywordCall.textFrom calls)).isInside := by
  rw [AnnotatedText.isMisplaced, isInside, KeywordCall.siteAt]
  cases call.keyword.role with
  | placeholder => rfl
  | lineStart => rw [Text.isAllBlank_append]
  | lineEnd =>
      cases calls with
      | nil => simp [KeywordCall.textFrom]
      | cons next calls =>
          have filled : Text.isAllBlank (KeywordCall.textFrom (next :: calls)) = false := by
            rw [KeywordCall.textFrom, List.flatMap_cons, List.append_assoc]
            exact KeywordCall.not_isAllBlank_text_append next _
          dsimp only
          rw [Text.isAllBlank_append, filled, Bool.and_false]
          rfl

end CallSite

/-! ### Arguments -/

namespace CallArguments

open CallSite (argumentOffense? boundName?)

variable {keyword : Keyword} {argument : Text}

theorem isAlternative_eq (argument : Text) :
    CallSite.isAlternative argument = ("or_".toList.isPrefixOf? argument).isSome :=
  List.isSome_isPrefixOf?_eq_isPrefixOf _ _ |>.symm

theorem add_of_offense (known : CallArguments) {cause : AnnotationError}
    (offense : argumentOffense? keyword argument = some cause) :
    add keyword known argument = .error cause := by
  rw [argumentOffense?] at offense
  cases named : boundName? argument with
  | some name =>
      rw [named] at offense
      rw [boundName?] at named
      rw [add, named]
      dsimp only at offense ⊢
      split at offense
      · cases offense
      · rename_i improper
        cases offense
        exact if_neg improper
  | none =>
      rw [named, isAlternative_eq] at offense
      rw [boundName?] at named
      have notEmpty : argument ≠ "or_empty".toList := by
        rintro rfl
        cases offense
      rw [add, named]
      dsimp only
      rw [if_neg notEmpty]
      cases alternative : "or_".toList.isPrefixOf? argument with
      | some rest =>
          rw [alternative] at offense
          cases offense
      | none =>
          cases option : ValueOption.ofText? argument with
          | some known =>
              rw [alternative, option] at offense
              cases offense
          | none =>
              rw [alternative, option] at offense
              cases offense
              rfl

theorem exists_add_of_sound (known : CallArguments)
    (sound : argumentOffense? keyword argument = none) :
    ∃ next, add keyword known argument = .ok next ∧
      next.name = (boundName? argument).or known.name := by
  rw [argumentOffense?] at sound
  cases named : boundName? argument with
  | some name =>
      rw [named] at sound
      rw [boundName?] at named
      rw [add, named]
      dsimp only at sound ⊢
      split at sound
      · rename_i proper
        exact ⟨_, if_pos proper, rfl⟩
      · cases sound
  | none =>
      rw [named, isAlternative_eq] at sound
      rw [boundName?] at named
      rw [add, named, Option.none_or]
      dsimp only
      split
      · exact ⟨_, rfl, rfl⟩
      · cases alternative : "or_".toList.isPrefixOf? argument with
        | some rest => exact ⟨_, rfl, rfl⟩
        | none =>
            cases option : ValueOption.ofText? argument with
            | some known => exact ⟨_, rfl, rfl⟩
            | none =>
                rw [alternative, option] at sound
                cases sound

/-- Arguments are read up to the first one with an offence. -/
theorem read_of_offense {arguments : Text} {cause : AnnotationError}
    (offense : (split arguments).findSome? (argumentOffense? keyword) = some cause) :
    read keyword arguments = .error cause := by
  have run : ∀ (texts : List Text) (known : CallArguments),
      texts.findSome? (argumentOffense? keyword) = some cause →
        texts.foldlM (add keyword) known = .error cause := by
    intro texts
    induction texts with
    | nil => intro known found; cases found
    | cons argument texts inductionHypothesis =>
        intro known found
        rw [List.findSome?_cons] at found
        rw [List.foldlM_cons]
        cases first : argumentOffense? keyword argument with
        | some other =>
            rw [first] at found
            cases found
            rw [add_of_offense known first]
            rfl
        | none =>
            rw [first] at found
            obtain ⟨next, added, -⟩ := exists_add_of_sound known first
            rw [added]
            exact inductionHypothesis next found
  exact run (split arguments) empty offense

/-- Arguments without an offence are read, and the last name among them is bound. -/
theorem exists_read_of_sound {arguments : Text}
    (sound : (split arguments).findSome? (argumentOffense? keyword) = none) :
    ∃ known, read keyword arguments = .ok known ∧
      known.name = ((split arguments).filterMap boundName?).getLast? := by
  have run : ∀ (texts : List Text) (known : CallArguments),
      texts.findSome? (argumentOffense? keyword) = none →
        ∃ last, texts.foldlM (add keyword) known = .ok last ∧
          last.name = (texts.filterMap boundName?).getLast?.or known.name := by
    intro texts
    induction texts with
    | nil => intro known _; exact ⟨known, rfl, rfl⟩
    | cons argument texts inductionHypothesis =>
        intro known none
        rw [List.findSome?_cons] at none
        cases first : argumentOffense? keyword argument with
        | some other =>
            rw [first] at none
            cases none
        | none =>
            rw [first] at none
            obtain ⟨next, added, named⟩ := exists_add_of_sound known first
            obtain ⟨last, folded, bound⟩ := inductionHypothesis next none
            refine ⟨last, by rw [List.foldlM_cons, added]; exact folded, ?_⟩
            rw [bound, named, List.filterMap_cons]
            cases boundName? argument with
            | none => rfl
            | some name =>
                cases (texts.filterMap boundName?) with
                | nil => rfl
                | cons other more => simp [List.getLast?_cons]
  obtain ⟨known, folded, named⟩ := run (split arguments) empty sound
  exact ⟨known, folded, by simpa [empty] using named⟩

end CallArguments

/-! ### Calls -/

namespace ExpandedPart

section Sound

variable {call : KeywordCall}
  (sound : (CallArguments.split call.arguments).findSome?
    (CallSite.argumentOffense? call.keyword) = none)

include sound

/-- A call whose arguments are in order and bind no name expands to a pattern. -/
theorem ofCall_of_unnamed (unnamed : call.lastName? = none) :
    ∃ pattern, ofCall call = .ok (.inline pattern) := by
  obtain ⟨known, read, name⟩ := CallArguments.exists_read_of_sound sound
  have bound : known.name = none := name.trans unnamed
  rw [ofCall, read]
  dsimp only [bind, Except.bind]
  rw [bound]
  split
  · exact ⟨_, rfl⟩
  · exact ⟨_, rfl⟩

variable {name : Text} (named : call.lastName? = some name)

include named

theorem ofCall_of_anchor (anchor : call.keyword.isAnchor = true) :
    ofCall call = .error (.anchorWithVariable call.keyword.name) := by
  obtain ⟨known, read, last⟩ := CallArguments.exists_read_of_sound sound
  have bound : known.name = some name := last.trans named
  rw [ofCall, read]
  dsimp only [bind, Except.bind]
  rw [bound, if_pos anchor]
  rfl

theorem ofCall_of_named (placeholder : call.keyword.isAnchor = false) :
    ∃ captured : Variable, captured.name = name ∧ ofCall call = .ok (.capture captured) := by
  obtain ⟨known, read, last⟩ := CallArguments.exists_read_of_sound sound
  have bound : known.name = some name := last.trans named
  rw [ofCall, read]
  dsimp only [bind, Except.bind]
  rw [bound, placeholder, if_neg Bool.false_ne_true]
  exact ⟨_, Variable.name_foldl_addOption _ _, rfl⟩

end Sound

end ExpandedPart

namespace KeywordCall

variable {call : KeywordCall} {before after : Text}

/-- The offence of a call in its place: that of its first argument with one, or else that of
its name, if it binds one. -/
theorem offense?_cases (bound : List Text)
    (placed : (call.siteAt before after).isInside = false) :
    (∃ cause,
      (CallArguments.split call.arguments).findSome?
        (CallSite.argumentOffense? call.keyword) = some cause ∧
      (call.siteAt before after).offense? bound = some cause) ∨
    ((CallArguments.split call.arguments).findSome?
        (CallSite.argumentOffense? call.keyword) = none ∧
      ((call.lastName? = none ∧ (call.siteAt before after).offense? bound = none) ∨
        ∃ name, call.lastName? = some name ∧
          ((call.keyword.isAnchor = true ∧ (call.siteAt before after).offense? bound =
              some (.anchorWithVariable call.keyword.name)) ∨
            (call.keyword.isAnchor = false ∧ name ∈ bound ∧
              (call.siteAt before after).offense? bound = some (.repeatedVariable name)) ∨
            (call.keyword.isAnchor = false ∧ name ∉ bound ∧
              (call.siteAt before after).offense? bound = none)))) := by
  have arguments : (call.siteAt before after).argumentTexts =
      CallArguments.split call.arguments := rfl
  have keyword : (call.siteAt before after).keyword = call.keyword := rfl
  have last : (call.siteAt before after).lastName? = call.lastName? := rfl
  rw [CallSite.offense?, placed, if_neg Bool.false_ne_true, arguments, keyword, last]
  cases first : (CallArguments.split call.arguments).findSome?
      (CallSite.argumentOffense? call.keyword) with
  | some cause => exact .inl ⟨cause, rfl, rfl⟩
  | none =>
      refine .inr ⟨rfl, ?_⟩
      cases call.lastName? with
      | none => exact .inl ⟨rfl, rfl⟩
      | some name =>
          refine .inr ⟨name, rfl, ?_⟩
          dsimp only
          cases call.keyword.isAnchor with
          | true => exact .inl ⟨rfl, rfl⟩
          | false =>
              rw [if_neg Bool.false_ne_true, List.contains_eq_mem]
              by_cases known : name ∈ bound
              · exact .inr (.inl ⟨rfl, known, if_pos (decide_eq_true known)⟩)
              · exact .inr (.inr ⟨rfl, known, if_neg (by simpa using known)⟩)

/-- A call in its place fails with its offence; without one it expands to a part that binds
its name, which is not bound before. -/
theorem expand_of_offense? (bound : List Text)
    (placed : (call.siteAt before after).isInside = false) :
    match (call.siteAt before after).offense? bound with
    | some cause =>
        (ExpandedPart.ofCall call >>= fun part => part.checkFresh bound) = .error cause
    | none =>
        ∃ part, ExpandedPart.ofCall call = .ok part ∧ part.checkFresh bound = .ok () ∧
          part.boundNames = call.lastName?.toList := by
  rcases offense?_cases bound placed with ⟨cause, bad, offense⟩ | ⟨sound, named⟩
  · rw [offense, ExpandedPart.ofCall, CallArguments.read_of_offense bad]
    rfl
  rcases named with ⟨unnamed, offense⟩ | ⟨name, named, last⟩
  · obtain ⟨pattern, expanded⟩ := ExpandedPart.ofCall_of_unnamed sound unnamed
    rw [offense, unnamed]
    exact ⟨_, expanded, rfl, rfl⟩
  rcases last with ⟨anchor, offense⟩ | ⟨placeholder, known, offense⟩ | ⟨placeholder, new, offense⟩
  · rw [offense, ExpandedPart.ofCall_of_anchor sound named anchor]
    rfl
  · obtain ⟨captured, rfl, expanded⟩ := ExpandedPart.ofCall_of_named sound named placeholder
    rw [offense, expanded]
    exact if_pos known
  · obtain ⟨captured, rfl, expanded⟩ := ExpandedPart.ofCall_of_named sound named placeholder
    rw [offense, named]
    exact ⟨_, expanded, if_neg new, rfl⟩

end KeywordCall

/-! ### Lines -/

namespace AnnotatedText

/-- The expansion of calls fails with their first offence; without one it succeeds. -/
theorem expandFrom_of_firstOffense? (front before : Text) (afterStart : Bool) (bound : List Text)
    (calls : List KeywordCall) :
    match CallSite.firstOffense? bound (CallSite.ofCalls front before calls) with
    | some cause =>
        expandFrom (Text.isAllBlank front) afterStart bound before calls = .error cause
    | none =>
        ∃ parts, expandFrom (Text.isAllBlank front) afterStart bound before calls = .ok parts := by
  induction calls generalizing front before afterStart bound with
  | nil => exact ⟨_, rfl⟩
  | cons call calls inductionHypothesis =>
      rw [CallSite.ofCalls, CallSite.firstOffense?, expandFrom,
        CallSite.isMisplaced_eq_isInside]
      cases inside : (call.siteAt (front ++ before)
          (call.following ++ KeywordCall.textFrom calls)).isInside with
      | true =>
          rw [CallSite.offense?, inside]
          rfl
      | false =>
          have called := KeywordCall.expand_of_offense? bound inside
          rw [if_neg Bool.false_ne_true]
          cases offense : (call.siteAt (front ++ before)
              (call.following ++ KeywordCall.textFrom calls)).offense? bound with
          | some cause =>
              rw [offense] at called
              exact bind_eq_error_of_bind called
          | none =>
              rw [offense] at called
              obtain ⟨part, expanded, fresh, names⟩ := called
              have later := inductionHypothesis (front ++ before ++ call.text) call.following
                (call.keyword.role = .lineStart) (bound ++ call.lastName?.toList)
              have closed : Text.isAllBlank (front ++ before ++ call.text) = false := by
                have written := call.not_isAllBlank_text_append []
                rw [List.append_nil] at written
                rw [Text.isAllBlank_append, written, Bool.and_false]
              have bindings : part.captured?.toList.map Variable.name =
                  call.lastName?.toList := names
              rw [closed] at later
              rw [expanded]
              dsimp only [bind, Except.bind]
              rw [fresh, bindings, Option.none_or]
              change match CallSite.firstOffense? (bound ++ call.lastName?.toList) _ with
                | some cause => _
                | none => _
              cases first : CallSite.firstOffense? (bound ++ call.lastName?.toList)
                  (CallSite.ofCalls (front ++ before ++ call.text) call.following calls) with
              | some cause =>
                  rw [first] at later
                  dsimp only at later ⊢
                  rw [later]
              | none =>
                  rw [first] at later
                  obtain ⟨parts, rest⟩ := later
                  dsimp only
                  rw [rest]
                  exact ⟨_, rfl⟩

/-- The expansion of a line fails with the first offence of its calls; without one it
succeeds. -/
theorem expand_of_firstOffense? (text : Text) :
    match CallSite.firstOffense? [] (CallSite.ofText text) with
    | some cause => (ofText text).expand = .error cause
    | none => ∃ parts, (ofText text).expand = .ok parts := by
  rw [CallSite.ofText_eq_ofCalls]
  exact expandFrom_of_firstOffense? [] (ofText text).leading false [] (ofText text).calls

end AnnotatedText

end LineTemplate
