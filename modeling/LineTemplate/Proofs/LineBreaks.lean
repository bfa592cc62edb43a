import LineTemplate.Proofs.Captures
import LineTemplate.Proofs.References

/-!
Contract: where the characters of a statement come from, as far as line breaks go.

Owns:
- the characters that a raw line cannot hold, or should not hold at its end;
- that none of them is in the pattern of a keyword or in literal text that is expanded, and
  that alternatives hold none that their call does not hold;
- `Statement.lacks_of_assembleWith`: neither the text nor a captured pattern of a statement
  holds one that its raw line does not hold.

Does not own: how lines are put together in a template.

White space is expanded to its class, so a break in literal text would vanish there. The
alternatives of a call and its directive are the parts that are written as they are.
-/

namespace LineTemplate

namespace Text

/-! ### Line breaks -/

def isBreak (c : Char) : Bool := c = '\n' || c = '\r'

variable {c : Char} (breaks : isBreak c = true)

include breaks in
theorem not_mem_of_isBreak {text : Text} (solid : text.any isBreak = false) : c ∉ text := by
  intro member
  rw [List.any_eq_false] at solid
  exact solid c member breaks

include breaks in
theorem isBlank_of_isBreak : isBlank c = true := by
  simp only [isBreak, Bool.or_eq_true, decide_eq_true_eq] at breaks
  rcases breaks with rfl | rfl
  · decide
  · decide

include breaks in
theorem isNameChar_of_isBreak : isNameChar c = false := by
  simp only [isBreak, Bool.or_eq_true, decide_eq_true_eq] at breaks
  rcases breaks with rfl | rfl
  · decide
  · decide

/-- What stands between separators are characters of the whole. -/
theorem mem_of_mem_splitOn {text piece : Text} {separator c : Char}
    (among : piece ∈ text.splitOn separator) (inside : c ∈ piece) : c ∈ text := by
  induction text generalizing piece with
  | nil =>
      rw [List.splitOn_nil, List.mem_singleton] at among
      rwa [among] at inside
  | cons first rest inductionHypothesis =>
      rw [List.splitOn_cons_eq_if_modifyHead] at among
      split at among
      · rcases List.mem_cons.mp among with rfl | later
        · cases inside
        · exact List.mem_cons_of_mem _ (inductionHypothesis later inside)
      · obtain ⟨head, more, split⟩ :=
          List.exists_cons_of_ne_nil (List.splitOn_ne_nil separator rest)
        rw [split] at among inductionHypothesis
        rcases List.mem_cons.mp among with rfl | later
        · rcases List.mem_cons.mp inside with rfl | later
          · exact List.mem_cons_self
          · exact List.mem_cons_of_mem _ (inductionHypothesis List.mem_cons_self later)
        · exact List.mem_cons_of_mem _
            (inductionHypothesis (List.mem_cons_of_mem _ later) inside)

end Text

variable {c : Char} (breaks : Text.isBreak c = true)

/-! ### Literal text -/

namespace Literal

include breaks in
theorem not_mem_escapeChar {other : Char} (different : c ≠ other) : c ∉ escapeChar other := by
  have backslash : c ∉ ['\\'] := Text.not_mem_of_isBreak breaks (by decide)
  unfold escapeChar
  split
  · rw [List.mem_cons, List.mem_singleton, not_or]
    exact ⟨by simpa using backslash, different⟩
  · simpa using different

include breaks in
theorem not_mem_escape {text : Text} (absent : c ∉ text) : c ∉ escape text := by
  intro member
  obtain ⟨other, inside, escaped⟩ := List.mem_flatMap.mp member
  apply not_mem_escapeChar breaks _ escaped
  rintro rfl
  exact absent inside

include breaks in
theorem not_mem_runUnit (run : Text) : c ∉ unitPattern (runUnit run) := by
  apply Text.not_mem_of_isBreak breaks
  unfold runUnit
  split
  · decide
  · split
    · decide
    · decide

include breaks in
/-- Literal text is expanded without its breaks: they are white space. -/
theorem not_mem_encode (text : Text) : c ∉ encode text := by
  unfold encode
  fun_induction units text with
  | case1 => simp
  | case2 first rest blank inductionHypothesis =>
      rw [List.flatMap_cons, List.mem_append, not_or]
      exact ⟨not_mem_runUnit breaks _, inductionHypothesis⟩
  | case3 first rest solid inductionHypothesis =>
      rw [List.flatMap_cons, List.mem_append, not_or]
      refine ⟨not_mem_escapeChar breaks ?_, inductionHypothesis⟩
      rintro rfl
      exact solid (Text.isBlank_of_isBreak breaks)

end Literal

/-! ### Calls -/

namespace Keyword

include breaks in
theorem not_mem_pattern {keyword : Keyword} (known : keyword ∈ all) : c ∉ keyword.pattern := by
  have checked : ∀ keyword ∈ all, keyword.pattern.any Text.isBreak = false := by decide +kernel
  exact Text.not_mem_of_isBreak breaks (checked keyword known)

end Keyword

namespace CallArguments

theorem mem_of_mem_split {arguments argument : Text} {c : Char}
    (among : argument ∈ split arguments) (inside : c ∈ argument) : c ∈ arguments := by
  obtain ⟨trimmed, -⟩ := List.mem_filter.mp among
  obtain ⟨piece, member, rfl⟩ := List.mem_map.mp trimmed
  exact Text.mem_of_mem_splitOn member ((Text.trim_infix piece).subset inside)

/-- An alternative of a call is written in its arguments. -/
theorem mem_of_mem_alternatives {keyword : Keyword} {arguments : Text} {known : CallArguments}
    (found : read keyword arguments = .ok known) :
    ∀ alternative ∈ known.alternatives, ∀ c ∈ alternative, c ∈ arguments := by
  apply read_induction _ _ found
  · intro alternative among
    cases among
  · intro known argument next member holds added
    rcases add_eq_ok added with ⟨_, -, rfl⟩ | ⟨last, spelled, rfl⟩ | ⟨_, rfl⟩
    · exact holds
    · intro alternative among c inside
      rcases List.mem_append.mp among with earlier | isLast
      · exact holds alternative earlier c inside
      · rw [List.mem_singleton.mp isLast] at inside
        exact mem_of_mem_split member (spelled c inside)
    · exact holds

include breaks in
theorem not_mem_pattern {keyword : Keyword} (known : keyword ∈ Keyword.all)
    {arguments : CallArguments} (absent : ∀ alternative ∈ arguments.alternatives, c ∉ alternative) :
    c ∉ pattern keyword arguments := by
  have composes : Composes (c ∉ ·) :=
    ⟨List.not_mem_nil, fun first second => by simp [first, second]⟩
  apply composes.pattern (Keyword.not_mem_pattern breaks known)
  · exact Text.not_mem_of_isBreak breaks (by decide)
  · exact Text.not_mem_of_isBreak breaks (by decide)
  · exact Text.not_mem_of_isBreak breaks (by decide)
  · exact fun alternative among => Literal.not_mem_escape breaks (absent alternative among)

end CallArguments

/-! ### Parts -/

/-- Neither the text of a part nor the pattern that it captures holds a character. -/
structure ExpandedPart.Lacks (part : ExpandedPart) (c : Char) : Prop where
  statement : c ∉ part.statement
  pattern : ∀ captured ∈ part.captured?, c ∉ captured.pattern

namespace ExpandedPart

include breaks in
theorem lacks_literal (text : Text) : (literal text).Lacks c where
  statement := Literal.not_mem_encode breaks text
  pattern := by simp [captured?]

include breaks in
theorem lacks_of_ofCall {call : KeywordCall} {part : ExpandedPart}
    (known : call.keyword ∈ Keyword.all) (absent : c ∉ call.arguments)
    (expanded : ofCall call = .ok part) : part.Lacks c := by
  obtain ⟨arguments, read, made⟩ := ofCall_eq_ok expanded
  have pattern : c ∉ CallArguments.pattern call.keyword arguments := by
    apply CallArguments.not_mem_pattern breaks known
    intro alternative among inside
    exact absent (CallArguments.mem_of_mem_alternatives read alternative among c inside)
  rcases made with ⟨-, rfl⟩ | ⟨-, rfl⟩ | ⟨-, captured, named, same, rfl⟩
  · exact ⟨Keyword.not_mem_pattern breaks known, by simp [captured?]⟩
  · exact ⟨pattern, by simp [captured?]⟩
  · have proper := CallArguments.isVariableName_of_read read captured.name named
    have name : c ∉ captured.name :=
      Text.not_mem_of_isVariableName proper (Text.isNameChar_of_isBreak breaks)
    have braces : c ∉ ['$', '\x7b', '\x7d'] := Text.not_mem_of_isBreak breaks (by decide)
    constructor
    · simpa [statement, Variable.reference, name] using braces
    · intro other inside
      cases inside
      rwa [same]

end ExpandedPart

namespace AnnotatedText

/-- The arguments of a call stand among the pieces that it is read from. -/
theorem arguments_inside {pieces : List LinePiece} {call : KeywordCall}
    (among : call ∈ (ofPieces pieces).calls) :
    call.arguments <:+: pieces.flatMap LinePiece.text := by
  induction pieces with
  | nil => cases among
  | cons piece pieces inductionHypothesis =>
      have later : call ∈ (ofPieces pieces).calls →
          call.arguments <:+: (piece :: pieces).flatMap LinePiece.text := by
        intro among
        exact (inductionHypothesis among).trans (List.suffix_append _ _).isInfix
      cases piece with
      | char c => exact later among
      | call written =>
          rw [ofPieces] at among
          split at among
          · exact later among
          · rcases List.mem_cons.mp among with rfl | behind
            · refine ⟨written.name ++ ['('], ')' :: pieces.flatMap LinePiece.text, ?_⟩
              simp [LinePiece.text, Call.text]
            · exact later behind

include breaks in
theorem lacks_of_expand {text : Text} {parts : List ExpandedPart} (absent : c ∉ text)
    (expanded : (ofText text).expand = .ok parts) : ∀ part ∈ parts, part.Lacks c := by
  have called : ∀ call ∈ (ofText text).calls, ∀ part, ExpandedPart.ofCall call = .ok part →
      part.Lacks c := by
    intro call among part made
    apply ExpandedPart.lacks_of_ofCall breaks (keyword_mem_of_mem_calls among) _ made
    intro inside
    have occurs := (arguments_inside among).subset inside
    rw [LinePiece.ofText, LinePiece.flatMap_text_read] at occurs
    exact absent occurs
  exact forall_parts_of_expandFrom (ExpandedPart.lacks_literal breaks) called expanded

end AnnotatedText

/-! ### Lines -/

theorem Literal.withoutAnchor_begins (content : Text) : withoutAnchor content <+: content := by
  have trimmed := Text.trimEnd_begins content
  unfold withoutAnchor
  dsimp only
  split
  · exact (Text.trimEnd_begins _).trans ((List.dropLast_prefix _).trans trimmed)
  · exact trimmed

namespace Line

theorem splitDirective_inside (text : Text) :
    (splitDirective text).1 <:+: text ∧ (splitDirective text).2 <:+: text := by
  refine ⟨(splitDirective_begins text).isInfix, ?_⟩
  unfold splitDirective
  split
  · rename_i before after found
    rw [Text.eq_append_of_splitAtLast? found]
    exact (Text.trim_infix after).trans ⟨before ++ separator, [], by simp⟩
  · exact List.nil_infix

theorem parse_inside (raw : Text) :
    (parse raw).content <:+: raw ∧ (parse raw).directive <:+: raw := by
  obtain ⟨working, directive⟩ := splitDirective_inside raw
  obtain ⟨marked, placed, -⟩ := exists_marked raw
  rw [directive_parse]
  rw [placed] at working
  exact ⟨(List.suffix_append marked _).isInfix.trans working, directive⟩

end Line

/-! ### Statements -/

namespace Statement

include breaks in
theorem not_mem_flagText (ignoreCase : Bool) : c ∉ flagText ignoreCase := by
  cases ignoreCase with
  | true => exact Text.not_mem_of_isBreak breaks (by decide)
  | false => exact List.not_mem_nil

include breaks in
theorem not_mem_anchorStart {body : Text} (absent : c ∉ body) : c ∉ anchorStart body := by
  have caret : c ∉ ['^'] := Text.not_mem_of_isBreak breaks (by decide)
  rcases anchorStart_cases body with ⟨rest, rfl, same⟩ | ⟨rest, -, same⟩ | same
  · rw [same]
    intro member
    apply absent
    simp only [List.mem_cons, List.mem_append] at member ⊢
    rcases member with first | flag | behind
    · exact .inr (.inl first)
    · exact .inl flag
    · exact .inr (.inr behind)
  · rwa [same]
  · rw [same, List.mem_cons, not_or]
    exact ⟨by simpa using caret, absent⟩

include breaks in
theorem not_mem_anchorEnd {body : Text} (absent : c ∉ body) : c ∉ anchorEnd body := by
  obtain ⟨core, given, kept, same, closed⟩ := exists_anchorEnd body
  have dollars : c ∉ List.replicate kept '$' := by
    intro member
    rw [List.eq_of_mem_replicate member] at breaks
    cases breaks
  rw [closed, List.mem_append, not_or]
  refine ⟨?_, dollars⟩
  intro member
  exact absent (same ▸ List.mem_append_left _ member)

include breaks in
theorem not_mem_finish {line : Line} {body : Text} (absent : c ∉ body)
    (undirected : c ∉ line.directive) : c ∉ finish line body := by
  have indentation : c ∉ Line.indentation := Text.not_mem_of_isBreak breaks (by decide)
  have separator : c ∉ Line.separator := Text.not_mem_of_isBreak breaks (by decide)
  have inside : c ∉ finishBody line body := by
    unfold finishBody
    dsimp only
    split
    · exact not_mem_anchorEnd breaks (not_mem_anchorStart breaks absent)
    · exact not_mem_anchorStart breaks absent
  have directive : c ∉ directiveText line := by
    unfold directiveText
    split
    · rw [List.mem_append, not_or]
      exact ⟨separator, undirected⟩
    · exact List.not_mem_nil
  simp only [finish, List.mem_append, not_or]
  exact ⟨⟨indentation, inside⟩, directive⟩

/-- Neither the text of a statement nor a pattern that it captures holds a character. -/
structure Lacks (statement : Statement) (c : Char) : Prop where
  text : c ∉ statement.text
  pattern : ∀ captured ∈ statement.captured, c ∉ captured.pattern

include breaks in
theorem lacks_of_expandWith {judge : PatternJudge} {line : Line} {expansion : Expansion}
    (absent : c ∉ line.content) (undirected : c ∉ line.directive)
    (expanded : expandWith judge line.content line.ignoreCase = .ok expansion) :
    Lacks ⟨.rule, finish line (bodyOf judge line expansion), expansion.captured⟩ c := by
  obtain ⟨parts, found, -, text, captured⟩ := exists_parts_of_expandWith expanded
  have inContent : c ∉ Literal.withoutAnchor line.content := fun member =>
    absent ((Literal.withoutAnchor_begins line.content).subset member)
  have each := AnnotatedText.lacks_of_expand breaks inContent found
  have flag := not_mem_flagText breaks line.ignoreCase
  have written : c ∉ expansion.text := by
    rw [text, List.mem_append, not_or]
    refine ⟨flag, ?_⟩
    intro member
    obtain ⟨part, among, inside⟩ := List.mem_flatMap.mp member
    exact (each part among).statement inside
  constructor
  · apply not_mem_finish breaks _ undirected
    cases expansion with
    | captures captured statement => exact written
    | plain plain =>
        unfold bodyOf plainBody
        dsimp only
        split
        · rw [List.mem_append, not_or]
          exact ⟨flag, absent⟩
        · exact written
  · intro single among
    change single ∈ expansion.captured at among
    rw [captured] at among
    obtain ⟨part, member, bound⟩ := List.mem_filterMap.mp among
    exact (each part member).pattern single bound

include breaks in
/-- A break that a raw line does not hold is in nothing that is made of it. -/
theorem lacks_of_assembleWith {judge : PatternJudge} {raw : Text} {statement : Statement}
    (absent : c ∉ raw)
    (assembled : assembleWith judge (expandWith judge) raw = .ok statement) :
    statement.Lacks c := by
  obtain ⟨content, directive⟩ := Line.parse_inside raw
  rcases assembleWith_eq_ok assembled with ⟨-, rfl | rfl | ⟨rfl, -⟩⟩ | ⟨expansion, -, expanded, rfl⟩
  · exact ⟨by simp, by simp⟩
  · exact ⟨absent, by simp⟩
  · exact ⟨absent, by simp⟩
  · exact lacks_of_expandWith breaks (fun member => absent (content.subset member))
      (fun member => absent (directive.subset member)) expanded

end Statement

end LineTemplate
