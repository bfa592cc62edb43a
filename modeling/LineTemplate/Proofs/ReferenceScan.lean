import LineTemplate.Pattern.Acceptance
import LineTemplate.Proofs.FinishedReferences

/-!
Contract: what a scan for references finds in the text of an expansion.

Owns:
- that inert texts are scanned as their characters and open no reference;
- the scan of a statement, part by part, and the places where it opens references;
- `Expansion.isReferenced_of_expandWith`: the references of an expansion are its
  variables, one for one.

Does not own: what finishing makes of the text.
-/

namespace LineTemplate

/-- What every reference begins with. -/
def referenceOpening : Text := ['$', '\x7b']

/-! ### Scans -/

namespace RulePiece

theorem ofText_cons_of_none {first : Char} {rest : Text}
    (none : readReference? (first :: rest) = none) :
    ofText (first :: rest) = .char first :: ofText rest := by
  rw [ofText]
  split
  · rename_i found
    rw [none] at found
    cases found
  · rfl

theorem ofText_reference {captured : Variable}
    (proper : Text.isVariableName captured.name = true) (rest : Text) :
    ofText (captured.reference ++ rest) = .reference captured.name :: ofText rest := by
  have written : captured.reference ++ rest =
      '$' :: '\x7b' :: (captured.name ++ '\x7d' :: rest) := by
    simp [Variable.reference]
  have read := readReference?_of_closed
    (Text.not_mem_of_isVariableName proper (c := '\x7d') (by decide)) rest
  rw [written, ofText]
  split
  · rename_i found
    rw [read] at found
    cases found
    rfl
  · rename_i found
    rw [read] at found
    cases found

/-- Characters that open no reference are scanned one by one. -/
theorem ofText_append_of_free {text rest : Text} (free : ¬referenceOpening <:+: text)
    (follows : Unbraced rest) : ofText (text ++ rest) = text.map .char ++ ofText rest := by
  induction text with
  | nil => rfl
  | cons first text inductionHypothesis =>
      have unopened : ¬referenceOpening <+: first :: (text ++ rest) := by
        intro opens
        cases text with
        | nil =>
            obtain ⟨after, same⟩ := opens
            cases same
            exact follows rfl
        | cons next text =>
            obtain ⟨after, same⟩ := opens
            cases same
            exact free ⟨[], text, rfl⟩
      rw [List.cons_append, ofText_cons_of_none (readReference?_of_unopened unopened),
        inductionHypothesis fun occurs => free (occurs.trans (List.suffix_cons first text).isInfix)]
      rfl

/-- A text that opens a reference and ends with a closing brace gets shorter when nothing
is put in the place of its references. -/
theorem length_fillReferences_lt {text : Text} (occurs : referenceOpening <:+: text)
    (closed : text.getLast? = some '\x7d') :
    (fillReferences (fun _ => some []) text).length < text.length := by
  have atMost : ∀ text : Text,
      (fillReferences (fun _ => some []) text).length ≤ text.length := by
    intro text
    induction text using ofText.induct with
    | case1 => simp [fillReferences_nil]
    | case2 first rest name after read inductionHypothesis =>
        have shorter := length_lt_of_readReference? read
        rw [fillReferences_of_readReference? _ read]
        simp only [fill, Option.getD_some, List.nil_append]
        omega
    | case3 first rest unread inductionHypothesis =>
        rw [fillReferences_cons_of_none _ unread]
        simpa using inductionHypothesis
  induction text using ofText.induct with
  | case1 => exact absurd occurs (by decide)
  | case2 first rest name after read =>
      have shorter := length_lt_of_readReference? read
      have bound := atMost after
      rw [fillReferences_of_readReference? _ read]
      simp only [fill, Option.getD_some, List.nil_append]
      omega
  | case3 first rest unread inductionHypothesis =>
      rw [fillReferences_cons_of_none _ unread, List.length_cons, List.length_cons]
      refine Nat.succ_lt_succ ?_
      rcases List.infix_cons_iff.1 occurs with opens | inside
      · -- The closing brace at the end would close the reference.
        exfalso
        obtain ⟨inside, same⟩ := opens
        rw [← same] at unread closed
        have member : '\x7d' ∈ inside := by
          cases inside with
          | nil => simp [referenceOpening] at closed
          | cons c inside =>
              exact List.mem_of_getLast? (by simpa [referenceOpening] using closed)
        obtain ⟨name, after, rfl, proper⟩ := List.eq_append_cons_of_mem member
        have read := readReference?_of_closed proper after
        simp only [referenceOpening, List.cons_append, List.nil_append] at unread
        rw [read] at unread
        cases unread
      · refine inductionHypothesis inside ?_
        cases rest with
        | nil => exact absurd inside (by decide)
        | cons c rest => simpa using closed

end RulePiece

/-- An inert text opens no reference, also with what is around it. -/
theorem Inert.free {text : Text} (inert : Inert text) : ¬referenceOpening <:+: text := by
  intro occurs
  -- Otherwise a closing brace behind the text would close a reference in it.
  have filled := inert.fillReferences_append (fun _ => some []) ['\x7d'] (by decide)
  have shorter := RulePiece.length_fillReferences_lt
    (occurs.trans (List.prefix_append text ['\x7d']).isInfix) (by simp)
  rw [filled] at shorter
  have single : fillReferences (fun _ => some []) ['\x7d'] = ['\x7d'] := by
    rw [fillReferences_cons _ _ (by decide), fillReferences_nil]
  simp [single] at shorter

/-- Where a text without openings is followed by one without a brace in front, references
are opened in the second only. -/
theorem exists_of_append_eq_opening {text rest before after : Text}
    (free : ¬referenceOpening <:+: text) (follows : Unbraced rest)
    (opened : text ++ rest = before ++ referenceOpening ++ after) :
    ∃ front, before = text ++ front ∧ rest = front ++ referenceOpening ++ after := by
  rw [List.append_assoc] at opened
  rcases List.append_eq_append_iff.1 opened with ⟨front, same, behind⟩ | ⟨inner, same, behind⟩
  · exact ⟨front, same, by rw [behind, List.append_assoc]⟩
  · match inner with
    | [] => exact ⟨[], by simpa using same.symm, by simpa using behind.symm⟩
    | [_] =>
        cases behind
        exact absurd rfl follows
    | first :: second :: inner =>
        cases behind
        exact absurd ⟨before, inner, by rw [same]; simp [referenceOpening]⟩ free

/-! ### Parts -/

namespace ExpandedPart

/-- What a scan finds of a part: its reference, or its characters. -/
def pieces : ExpandedPart → List RulePiece
  | .capture captured => [.reference captured.name]
  | .inline pattern => pattern.map .char
  | .literal text => (Literal.encode text).map .char

/-- A part is scanned for what it is, and opens a reference only if it captures. -/
structure Scans (part : ExpandedPart) : Prop where
  unbraced : Unbraced part.statement
  ofText_append : ∀ rest, Unbraced rest →
    RulePiece.ofText (part.statement ++ rest) = part.pieces ++ RulePiece.ofText rest
  opening : ∀ rest before after, Unbraced rest →
    part.statement ++ rest = before ++ referenceOpening ++ after →
      (before = [] ∧ ∃ captured, part = .capture captured) ∨
        ∃ front, before = part.statement ++ front ∧ rest = front ++ referenceOpening ++ after
  proper : ∀ captured ∈ part.captured?, Text.isVariableName captured.name = true

theorem scans_of_inert {part : ExpandedPart} (inert : Inert part.statement)
    (chars : part.pieces = part.statement.map .char) (silent : part.captured? = none) :
    part.Scans where
  unbraced := inert.unbraced
  ofText_append rest follows := by
    rw [chars, RulePiece.ofText_append_of_free inert.free follows]
  opening rest before after follows opened :=
    .inr (exists_of_append_eq_opening inert.free follows opened)
  proper captured captures := by
    rw [silent] at captures
    cases captures

theorem scans_capture {captured : Variable}
    (proper : Text.isVariableName captured.name = true) : Scans (.capture captured) where
  unbraced := by simp [Unbraced, statement, Variable.reference]
  ofText_append rest _ := RulePiece.ofText_reference proper rest
  opening rest before after follows opened := by
    -- No name holds a dollar sign, so nothing is opened inside the reference.
    have closing : ¬referenceOpening <:+: '\x7b' :: (captured.name ++ ['\x7d']) := by
      rintro ⟨front, behind, same⟩
      have member : '$' ∈ '\x7b' :: (captured.name ++ ['\x7d']) := by
        rw [← same]
        simp [referenceOpening]
      simp only [List.mem_cons, List.mem_append, List.not_mem_nil, or_false] at member
      rcases member with brace | inside | brace
      · cases brace
      · exact Text.not_mem_of_isVariableName proper (by decide) inside
      · cases brace
    cases before with
    | nil => exact .inl ⟨rfl, captured, rfl⟩
    | cons first before =>
        rw [statement, Variable.reference] at opened ⊢
        simp only [List.cons_append, List.cons.injEq] at opened
        obtain ⟨rfl, behind⟩ := opened
        obtain ⟨front, rfl, same⟩ := exists_of_append_eq_opening closing follows
          (by simpa using behind)
        exact .inr ⟨front, by simp, same⟩
  proper single captures := by
    cases captures
    exact proper

theorem scans_of_ofCall {call : KeywordCall} {part : ExpandedPart}
    (known : call.keyword ∈ Keyword.all) (expanded : ofCall call = .ok part) : part.Scans := by
  obtain ⟨arguments, read, ⟨-, rfl⟩ | ⟨-, rfl⟩ | ⟨-, captured, named, -, rfl⟩⟩ :=
    ofCall_eq_ok expanded
  · exact scans_of_inert (Keyword.inert_pattern known) rfl rfl
  · exact scans_of_inert (CallArguments.inert_pattern known arguments) rfl rfl
  · exact scans_capture (CallArguments.isVariableName_of_read read captured.name named)

variable {parts : List ExpandedPart}

theorem unbraced_statement (scans : ∀ part ∈ parts, part.Scans) :
    Unbraced (parts.flatMap statement) := by
  induction parts with
  | nil => decide
  | cons part parts inductionHypothesis =>
      obtain ⟨first, others⟩ := List.forall_mem_cons.1 scans
      exact first.unbraced.append (inductionHypothesis others)

/-- A statement is scanned part by part. -/
theorem ofText_statement (scans : ∀ part ∈ parts, part.Scans) :
    RulePiece.ofText (parts.flatMap statement) = parts.flatMap pieces := by
  induction parts with
  | nil => rw [List.flatMap_nil, RulePiece.ofText, List.flatMap_nil]
  | cons part parts inductionHypothesis =>
      obtain ⟨first, others⟩ := List.forall_mem_cons.1 scans
      rw [List.flatMap_cons, first.ofText_append _ (unbraced_statement others),
        inductionHypothesis others, List.flatMap_cons]

/-- A reference is opened nowhere but where a part that captures begins. -/
theorem exists_of_statement_eq_opening (scans : ∀ part ∈ parts, part.Scans) {before after : Text}
    (opened : parts.flatMap statement = before ++ referenceOpening ++ after) :
    ∃ front captured rest, parts = front ++ .capture captured :: rest ∧
      before = front.flatMap statement := by
  induction parts generalizing before with
  | nil => simp [referenceOpening] at opened
  | cons part parts inductionHypothesis =>
      obtain ⟨first, others⟩ := List.forall_mem_cons.1 scans
      rw [List.flatMap_cons] at opened
      rcases first.opening _ before after (unbraced_statement others) opened with
        ⟨rfl, captured, rfl⟩ | ⟨between, rfl, later⟩
      · exact ⟨[], captured, parts, rfl, rfl⟩
      · obtain ⟨front, captured, rest, rfl, rfl⟩ := inductionHypothesis others later
        exact ⟨part :: front, captured, rest, rfl, rfl⟩

theorem filterMap_name?_pieces (parts : List ExpandedPart) :
    (parts.flatMap pieces).filterMap RulePiece.name? =
      (capturedVariables parts).map Variable.name := by
  have silent : ∀ text : Text, (text.map RulePiece.char).filterMap RulePiece.name? = [] := by
    intro text
    simp [RulePiece.name?, List.filterMap_map, Function.comp_def]
  induction parts with
  | nil => rfl
  | cons part parts inductionHypothesis =>
      rw [List.flatMap_cons, List.filterMap_append, inductionHypothesis]
      cases part with
      | capture captured => rfl
      | inline pattern => rw [pieces, silent]; rfl
      | literal text => rw [pieces, silent]; rfl

end ExpandedPart

/-! ### Expansions -/

/-- A statement that is made of parts refers to variables as they are captured. -/
structure RefersTo (captured : List Variable) (ignoreCase : Bool) (parts : List ExpandedPart)
    (statement : Text) : Prop where
  /-- From left to right, the references of the statement name the variables. -/
  found : referencedNames statement = captured.map Variable.name
  distinct : (captured.map Variable.name).Nodup
  proper : ∀ single ∈ captured, Text.isVariableName single.name = true
  /-- A reference is opened only where a variable is captured. -/
  opened : ∀ before after, statement = before ++ referenceOpening ++ after →
    ∃ front single rest, parts = front ++ .capture single :: rest ∧
      before = flagText ignoreCase ++ front.flatMap ExpandedPart.statement
  /-- With groups in the place of references, the statement is the probe. -/
  grouped : withGroups captured statement =
    flagText ignoreCase ++ parts.flatMap ExpandedPart.probe

/-- The references of an expansion are its variables, one for one, and with groups in their
place the judge was asked about it; a text without variables opens no reference. -/
def Expansion.IsReferenced (judge : PatternJudge) (content : Text) (ignoreCase : Bool) :
    Expansion → Prop
  | .captures captured statement =>
      ∃ parts, (AnnotatedText.ofText (Literal.withoutAnchor content)).expand = .ok parts ∧
        judge (flagText ignoreCase ++ parts.flatMap ExpandedPart.probe) = none ∧
        RefersTo captured ignoreCase parts statement
  | .plain text => ¬referenceOpening <:+: text

theorem free_flagText (ignoreCase : Bool) : ¬referenceOpening <:+: flagText ignoreCase := by
  cases ignoreCase <;> decide

theorem refersTo_of_expand {annotated : AnnotatedText} {parts : List ExpandedPart}
    (known : ∀ call ∈ annotated.calls, call.keyword ∈ Keyword.all)
    (expanded : annotated.expand = .ok parts) (ignoreCase : Bool) :
    RefersTo (capturedVariables parts) ignoreCase parts
      (flagText ignoreCase ++ parts.flatMap ExpandedPart.statement) := by
  have scans : ∀ part ∈ parts, part.Scans :=
    AnnotatedText.forall_parts_of_expandFrom
      (fun text => ExpandedPart.scans_of_inert (Literal.inert_encode text) rfl rfl)
      (fun call member part => ExpandedPart.scans_of_ofCall (known call member)) expanded
  have unbraced := ExpandedPart.unbraced_statement scans
  refine ⟨?_, ?_, ?_, ?_, ?_⟩
  · have silent : ((flagText ignoreCase).map RulePiece.char).filterMap RulePiece.name? = [] := by
      cases ignoreCase <;> rfl
    rw [referencedNames, RulePiece.ofText_append_of_free (free_flagText ignoreCase) unbraced,
      ExpandedPart.ofText_statement scans, List.filterMap_append, silent, List.nil_append,
      ExpandedPart.filterMap_name?_pieces]
  · rw [map_name_capturedVariables]
    exact (AnnotatedText.nodup_boundNames_of_expandFrom expanded).1
  · intro single among
    obtain ⟨part, member, captures⟩ := List.mem_filterMap.1 among
    exact (scans part member).proper single captures
  · intro before after opened
    obtain ⟨between, rfl, later⟩ :=
      exists_of_append_eq_opening (free_flagText ignoreCase) unbraced opened
    obtain ⟨front, single, rest, split, rfl⟩ :=
      ExpandedPart.exists_of_statement_eq_opening scans later
    exact ⟨front, single, rest, split, rfl⟩
  · rw [withGroups_flagText, withGroups_statement known expanded]

theorem Expansion.isReferenced_of_expandWith {judge : PatternJudge} {content : Text}
    {ignoreCase : Bool} {expansion : Expansion}
    (expanded : expandWith judge content ignoreCase = .ok expansion) :
    expansion.IsReferenced judge content ignoreCase := by
  obtain ⟨parts, found, accepted, text, captured⟩ := exists_parts_of_expandWith expanded
  have refers := refersTo_of_expand
    (fun call member => AnnotatedText.keyword_mem_of_mem_calls member) found ignoreCase
  rw [← text] at refers
  change expansion.captured = capturedVariables parts at captured
  cases expansion with
  | captures _ statement =>
      cases captured
      exact ⟨parts, found, accepted, refers⟩
  | plain _ =>
      rintro ⟨before, after, opened⟩
      obtain ⟨front, single, rest, rfl, -⟩ := refers.opened before after opened.symm
      have none : capturedVariables (front ++ .capture single :: rest) = [] := captured.symm
      simp [capturedVariables, ExpandedPart.captured?] at none

/-- Neither the dollar sign of the text nor the end of the line meets a brace. -/
theorem Expansion.price_isReferenced :
    let content : Text := "(cost) $digits(var_n)\x7b\x7d end()".toList
    let expansion : Expansion := .captures [⟨"n".toList, "\\d+".toList, []⟩]
      "\\(cost\\) \\$$\x7bn\x7d\\\x7b\\\x7d$".toList
    expandWith Pattern.judge content false = .ok expansion ∧
      expansion.IsReferenced Pattern.judge content false := by
  intro content expansion
  have expanded : expandWith Pattern.judge content false = .ok expansion :=
    eq_ok_of_toOption (by decide +kernel)
  exact ⟨expanded, isReferenced_of_expandWith expanded⟩

end LineTemplate
