import LineTemplate.Proofs.Samples
import LineTemplate.Proofs.ValidRules

/-!
Contract: what the body of a rule ends with before it is finished.

Owns:
- `Literal.EndsPlainly`, for texts without an anchor at their end and without a backslash
  that would escape one;
- that a statement ends so, but for the anchor of a call that ends the line;
- the two bodies that a line can have, its statement and its content.

Does not own: what finishing adds.
-/

namespace LineTemplate

namespace Literal

/-- There is no anchor at the end of a text, but a dollar sign put there is one. -/
structure EndsPlainly (text : Text) : Prop where
  open_ : endsWithAnchor (text ++ ['$']) = true
  unanchored : endsWithAnchor text = false

/-- A text that ends plainly wherever it is put behind one that does. -/
def KeepsPlain (text : Text) : Prop := ∀ front, EndsPlainly front → EndsPlainly (front ++ text)

theorem endsPlainly_nil : EndsPlainly [] := ⟨by decide, by decide⟩

theorem endsPlainly_concat (front : Text) {last : Char} (solid : last ≠ '$')
    (plain : last ≠ '\\') : EndsPlainly (front ++ [last]) where
  open_ := by
    rw [List.append_assoc, List.singleton_append, endsWithAnchor_append front _ solid plain]
    decide
  unanchored := by
    rw [endsWithAnchor_append front [] solid plain]
    decide

namespace KeepsPlain

theorem nil : KeepsPlain [] := fun front plain => by rwa [List.append_nil]

theorem append {text more : Text} (first : KeepsPlain text) (second : KeepsPlain more) :
    KeepsPlain (text ++ more) := fun front plain => by
  rw [← List.append_assoc]
  exact second _ (first front plain)

theorem composes : Composes KeepsPlain := ⟨nil, append⟩

theorem concat (text : Text) {last : Char} (solid : last ≠ '$') (plain : last ≠ '\\') :
    KeepsPlain (text ++ [last]) := fun front _ => by
  rw [← List.append_assoc]
  exact endsPlainly_concat _ solid plain

/-- A text is judged by its last character alone. -/
theorem of_getLast? {text : Text}
    (last : text.getLast?.all (fun c => c != '$' && c != '\\') = true) : KeepsPlain text := by
  rcases List.eq_nil_or_concat text with rfl | ⟨front, c, rfl⟩
  · exact nil
  · rw [List.concat_eq_append] at last ⊢
    have judged : c ≠ '$' ∧ c ≠ '\\' := by simpa using last
    exact concat front judged.1 judged.2

theorem endsPlainly {text : Text} (keeps : KeepsPlain text) : EndsPlainly text :=
  keeps [] endsPlainly_nil

end KeepsPlain

theorem keepsPlain_escapeChar (c : Char) : KeepsPlain (escapeChar c) := by
  intro front plain
  -- The backslashes that a text ends with are in pairs where a dollar sign is an anchor.
  have even := plain.open_
  simp only [endsWithAnchor, List.reverse_append, List.reverse_singleton,
    List.singleton_append, anchorLeads, decide_eq_true_eq] at even
  by_cases backslash : c = '\\'
  · subst backslash
    have written : escapeChar '\\' = ['\\', '\\'] := rfl
    rw [written]
    constructor
    · simp [endsWithAnchor, anchorLeads]
      omega
    · simp [endsWithAnchor, anchorLeads]
  by_cases dollar : c = '$'
  · subst dollar
    have written : escapeChar '$' = ['\\', '$'] := rfl
    rw [written]
    constructor
    · simp [endsWithAnchor, anchorLeads]
    · simp [endsWithAnchor, anchorLeads]
      omega
  · unfold escapeChar
    split
    · exact KeepsPlain.concat ['\\'] dollar backslash front plain
    · exact KeepsPlain.concat [] dollar backslash front plain

theorem keepsPlain_encode (text : Text) : KeepsPlain (encode text) := by
  apply KeepsPlain.composes.encode keepsPlain_escapeChar
  · exact .of_getLast? (by decide)
  · exact .of_getLast? (by decide)

end Literal

open Literal

theorem Keyword.keepsPlain_pattern {keyword : Keyword} (known : keyword ∈ all)
    (inside : keyword.role ≠ .lineEnd) : KeepsPlain keyword.pattern := by
  have checked : ∀ keyword ∈ all, keyword.role ≠ .lineEnd →
      keyword.pattern.getLast?.all (fun c => c != '$' && c != '\\') = true := by decide +kernel
  exact .of_getLast? (checked keyword known inside)

theorem CallArguments.keepsPlain_pattern {keyword : Keyword} (known : keyword ∈ Keyword.all)
    (inside : keyword.role ≠ .lineEnd) (arguments : CallArguments) :
    KeepsPlain (pattern keyword arguments) := by
  cases alternatives : arguments.alternatives.isEmpty with
  | true =>
      rw [pattern, alternatives]
      exact Keyword.keepsPlain_pattern known inside
  | false =>
      rw [pattern_of_alternatives keyword alternatives]
      exact .concat _ (by decide) (by decide)

theorem ExpandedPart.keepsPlain_of_ofCall {call : KeywordCall} {part : ExpandedPart}
    (known : call.keyword ∈ Keyword.all) (inside : call.keyword.role ≠ .lineEnd)
    (expanded : ofCall call = .ok part) : KeepsPlain part.statement := by
  obtain ⟨arguments, -, ⟨-, rfl⟩ | ⟨-, rfl⟩ | ⟨-, captured, -, -, rfl⟩⟩ := ofCall_eq_ok expanded
  · exact Keyword.keepsPlain_pattern known inside
  · exact CallArguments.keepsPlain_pattern known inside arguments
  · rw [statement, Variable.reference]
    exact .concat ('$' :: '\x7b' :: captured.name) (by decide) (by decide)

/-! ### Lines -/

namespace AnnotatedText

/-- The last call of a line is the one that ends it. -/
def EndsLine (calls : List KeywordCall) : Prop :=
  ∃ call ∈ calls.getLast?, call.keyword.role = .lineEnd

instance (calls : List KeywordCall) : Decidable (EndsLine calls) :=
  inferInstanceAs (Decidable (∃ call ∈ calls.getLast?, _))

/-- Another call in front ends no line. -/
theorem endsLine_cons_iff (call : KeywordCall) (calls : List KeywordCall)
    (inside : call.keyword.role ≠ .lineEnd) : EndsLine (call :: calls) ↔ EndsLine calls := by
  cases calls with
  | nil => simp [EndsLine, inside]
  | cons next calls => rw [EndsLine, EndsLine, List.getLast?_cons_cons]

/-- Behind a call that ends the line, there is no call and only white space. -/
theorem eq_nil_of_lineEnd {opening : Bool} {before : Text} (call : KeywordCall)
    {calls : List KeywordCall} (ends : call.keyword.role = .lineEnd)
    (placed : isMisplaced opening before call calls = false) :
    calls = [] ∧ Text.isAllBlank call.following = true := by
  simpa [isMisplaced, ends] using placed

/-- A statement ends plainly, before the anchor of a call that ends the line. -/
theorem keepsPlain_expandFrom {opening afterStart : Bool} {bound : List Text} {before : Text}
    {calls : List KeywordCall} {parts : List ExpandedPart}
    (known : ∀ call ∈ calls, call.keyword ∈ Keyword.all)
    (trimmed : Text.trimEnd (lastText before calls) = lastText before calls)
    (expanded : expandFrom opening afterStart bound before calls = .ok parts) :
    (¬EndsLine calls → KeepsPlain (parts.flatMap ExpandedPart.statement)) ∧
      (EndsLine calls → ∃ front, parts.flatMap ExpandedPart.statement = front ++ ['$'] ∧
        KeepsPlain front) := by
  induction calls generalizing opening afterStart bound before parts with
  | nil =>
      cases expanded
      refine ⟨fun _ => ?_, fun ends => ?_⟩
      · rw [List.flatMap_singleton]
        exact keepsPlain_encode _
      · obtain ⟨call, member, -⟩ := ends
        cases member
  | cons call calls inductionHypothesis =>
      obtain ⟨placed, part, rest, made, -, later, rfl⟩ := expandFrom_cons_eq_ok_iff.1 expanded
      rw [List.flatMap_cons, List.flatMap_cons, ExpandedPart.statement]
      have keyword := known call (by simp)
      by_cases ends : call.keyword.role = .lineEnd
      · obtain ⟨rfl, blank⟩ := eq_nil_of_lineEnd call ends placed
        have nothing := Text.eq_nil_of_isAllBlank blank trimmed
        have anchor : call.keyword.isAnchor = true := by simp [Keyword.isAnchor, ends]
        rw [ExpandedPart.eq_inline_of_ofCall anchor made, Keyword.pattern_of_lineEnd keyword ends]
        rw [nothing, expandFrom] at later
        cases later
        have empty : literalBetween (call.keyword.role = .lineStart) .placeholder [] = [] := by
          rw [ends]
          rfl
        -- For this call and what is behind it, only the anchor is written.
        refine ⟨fun open_ => absurd ⟨call, rfl, ends⟩ open_, fun _ =>
          ⟨encode (literalBetween afterStart call.keyword.role before), ?_, keepsPlain_encode _⟩⟩
        simp [ExpandedPart.statement, empty, encode, units]
      · obtain ⟨plain, ended⟩ := inductionHypothesis
          (fun other member => known other (by simp [member])) trimmed later
        have first := (keepsPlain_encode
          (literalBetween afterStart call.keyword.role before)).append
            (ExpandedPart.keepsPlain_of_ofCall keyword ends made)
        rw [endsLine_cons_iff call calls ends, ← List.append_assoc]
        refine ⟨fun open_ => first.append (plain open_), fun closed => ?_⟩
        obtain ⟨front, same, keeps⟩ := ended closed
        exact ⟨_ ++ front, by rw [same, List.append_assoc _ front], first.append keeps⟩

end AnnotatedText

/-- Whether the last call of the content of a line ends the line. -/
def Line.EndsByCall (line : Line) : Prop :=
  AnnotatedText.EndsLine (AnnotatedText.ofText (Literal.withoutAnchor line.content)).calls

/-- The text of an expansion ends plainly, before the anchor of a call that ends the line. -/
theorem endsPlainly_of_expandWith {judge : PatternJudge} {line : Line} {expansion : Expansion}
    (expanded : expandWith judge line.content line.ignoreCase = .ok expansion) :
    (¬line.EndsByCall → EndsPlainly expansion.text) ∧
      (line.EndsByCall → ∃ front, expansion.text = front ++ ['$'] ∧ EndsPlainly front) := by
  obtain ⟨parts, found, -, text, -⟩ := exists_parts_of_expandWith expanded
  have flag : KeepsPlain (flagText line.ignoreCase) := by
    cases line.ignoreCase <;> exact .of_getLast? (by decide)
  obtain ⟨plain, ended⟩ := AnnotatedText.keepsPlain_expandFrom
    (fun call member => AnnotatedText.keyword_mem_of_mem_calls member)
    (AnnotatedText.trimEnd_lastText (trimEnd_withoutAnchor line.content)) found
  rw [text]
  refine ⟨fun open_ => (flag.append (plain open_)).endsPlainly, fun closed => ?_⟩
  obtain ⟨front, same, keeps⟩ := ended closed
  exact ⟨_ ++ front, by rw [same, List.append_assoc], (flag.append keeps).endsPlainly⟩

/-! ### Bodies -/

namespace Statement

variable {judge : PatternJudge}

/-- The statement of a line that needs the engine is finished from an expansion. -/
theorem exists_expansion_of_needsEngine {raw : Text} {statement : Statement}
    (assembled : assembleWith judge (expandWith judge) raw = .ok statement)
    (needed : (Line.parse raw).needsEngine = true) :
    ∃ expansion,
      expandWith judge (Line.parse raw).content (Line.parse raw).ignoreCase = .ok expansion ∧
      statement = ⟨.rule, finish (Line.parse raw) (bodyOf judge (Line.parse raw) expansion),
        expansion.captured⟩ := by
  rcases assembleWith_eq_ok assembled with ⟨finished, -⟩ | ⟨expansion, -, expanded, rfl⟩
  · rw [needed] at finished
    cases finished
  · exact ⟨expansion, expanded, rfl⟩

/-- So is a rule that is not a line as it was given. -/
theorem needsEngine_of_rule {raw : Text} {statement : Statement}
    (assembled : assembleWith judge (expandWith judge) raw = .ok statement)
    (isRule : statement.kind = .rule) (unfinished : (Line.parse raw).isAssembled = false) :
    (Line.parse raw).needsEngine = true := by
  rcases assembleWith_eq_ok assembled with ⟨-, given⟩ | ⟨_, needed, -, -⟩
  · rcases given with rfl | rfl | ⟨rfl, rest, rfl⟩
    · cases isRule
    · cases isRule
    · obtain ⟨notBlank, notWord⟩ := Line.kind_ruleStart rest
      rw [Line.needsEngine_eq_not_isAssembled notBlank notWord, unfinished]
      rfl
  · exact needed

/-- The body of a line is its content behind the case flag, or the text of its expansion. -/
theorem bodyOf_cases {line : Line} {expansion : Expansion}
    (expanded : expandWith judge line.content line.ignoreCase = .ok expansion) :
    (line.IsVerbatim judge ∧ bodyOf judge line expansion = line.flaggedContent) ∨
      (¬line.IsVerbatim judge ∧ bodyOf judge line expansion = expansion.text) := by
  by_cases verbatim : line.IsVerbatim judge
  · obtain ⟨text, plain⟩ := verbatim.uncaptured
    rw [expanded] at plain
    cases plain
    refine .inl ⟨verbatim, ?_⟩
    simp [bodyOf, plainBody, verbatim.accepted, verbatim.solid, Line.flaggedContent]
  · refine .inr ⟨verbatim, ?_⟩
    cases expansion with
    | captures captured text => rfl
    | plain text =>
        rw [bodyOf, plainBody, if_neg]
        · rfl
        · intro both
          simp only [Bool.and_eq_true, Bool.not_eq_true'] at both
          exact verbatim ⟨⟨text, expanded⟩, both.1, both.2⟩

end Statement

end LineTemplate
