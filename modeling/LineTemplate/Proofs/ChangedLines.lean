import LineTemplate.Proofs.LongerLines
import LineTemplate.Proofs.MarkedLines
import LineTemplate.Proofs.MetCalls
import LineTemplate.Proofs.ReboundVariables

/-!
Contract: lines whose calls are given other arguments.

Owns:
- `Line.withContent`, a line with another content in the place of its own, and how it is taken
  apart where only arguments of calls differ;
- `assembleBy_of_rebinds`: other arguments for variables do not change the text of a statement;
- `kept_of_rebinds`: that, for contents and for whole lines.

Does not own: the expansion of contents.
-/

namespace LineTemplate

variable {allowed : Call → Text → Prop}

/-! ### Separators -/

/-- A word lies before or behind a character that it does not hold. -/
theorem Text.infix_or_infix_of_infix_append_cons {word text more : Text} {c : Char}
    (disjoint : c ∉ word) (occurs : word <:+: text ++ c :: more) :
    word <:+: text ∨ word <:+: more := by
  rcases List.infix_append_iff.1 occurs with before | behind | ⟨first, last, rfl, ends, begins⟩
  · exact .inl before
  · cases word with
    | nil => exact .inl List.nil_infix
    | cons head rest =>
        refine .inr (infix_of_infix_cons (fun member => disjoint member) (by simp) behind)
  · cases last with
    | nil => exact .inl (by simpa using ends.isInfix)
    | cons head rest =>
        obtain ⟨after, same⟩ := begins
        rw [List.cons_append, List.cons.injEq] at same
        exact absurd (by simp [same.1]) disjoint

/-- A word without parentheses that is not among the new arguments was there before. -/
theorem LinePiece.infix_of_changed {word front : Text} {pieces others : List LinePiece}
    (opening : '(' ∉ word) (closing : ')' ∉ word)
    (absent : ∀ written arguments, allowed written arguments → ¬word <:+: arguments)
    (changed : List.Forall₂ (Changed allowed) pieces others)
    (occurs : word <:+: front ++ others.flatMap text) :
    word <:+: front ++ pieces.flatMap text := by
  induction changed generalizing front with
  | nil => exact occurs
  | @cons piece other pieces others first later inductionHypothesis =>
      cases first with
      | same =>
          rw [List.flatMap_cons, ← List.append_assoc] at occurs ⊢
          exact inductionHypothesis occurs
      | @call written arguments flat change =>
          have before : front ++ (call written :: pieces).flatMap text =
              (front ++ written.name) ++
                '(' :: (written.arguments ++ ')' :: pieces.flatMap text) := by
            simp [text, Call.text]
          have after : front ++ (call ⟨written.name, arguments⟩ :: others).flatMap text =
              (front ++ written.name) ++ '(' :: (arguments ++ ')' :: others.flatMap text) := by
            simp [text, Call.text]
          rw [after] at occurs
          rw [before]
          rcases Text.infix_or_infix_of_infix_append_cons opening occurs with named | occurs
          · exact named.trans (List.prefix_append _ _).isInfix
          rcases Text.infix_or_infix_of_infix_append_cons closing occurs with argued | behind
          · exact absurd argued (absent written arguments change)
          · have still : word <:+: [] ++ pieces.flatMap text :=
              inductionHypothesis (by rwa [List.nil_append])
            rw [List.nil_append] at still
            refine still.trans ⟨front ++ written.name ++ '(' :: written.arguments ++ [')'], [], ?_⟩
            simp

/-! ### Lines -/

namespace Line

/-- The line with another content in the place of its own. -/
def withContent (line : Line) (content : Text) : Text :=
  let start := if line.ignoreCase then marker.length else 0
  line.text.take start ++ (content ++ line.text.drop (start + line.content.length))

theorem withContent_of_text_eq {line : Line} {marked rest : Text}
    (whole : line.text = marked ++ (line.content ++ rest))
    (length : marked.length = if line.ignoreCase then marker.length else 0) (content : Text) :
    line.withContent content = marked ++ (content ++ rest) := by
  rw [withContent, ← length, whole, List.take_left, ← List.drop_drop, List.drop_left,
    List.drop_left]

/-- The content of a line has its place in the text of the line: before it stands a marker or
nothing, and behind it what is split off with the directive. -/
theorem exists_parts (raw : Text) :
    ∃ marked rest, raw = marked ++ ((parse raw).content ++ rest) ∧
      (splitDirective raw).1 = marked ++ (parse raw).content ∧
      (∀ content, (parse raw).withContent content = marked ++ (content ++ rest)) ∧
      (marked.map Text.fold = marker ∧ (parse raw).ignoreCase = true ∨
        marked = [] ∧ (parse raw).ignoreCase = false ∧
          dropMarker? (parse raw).content = none) := by
  obtain ⟨marked, working, marks⟩ := exists_marked raw
  obtain ⟨rest, whole⟩ := splitDirective_begins raw
  have text : raw = marked ++ ((parse raw).content ++ rest) := by
    rw [← List.append_assoc, ← working, whole]
  have length : marked.length = if (parse raw).ignoreCase then marker.length else 0 := by
    rcases marks with ⟨folded, ignores⟩ | ⟨rfl, regards, -⟩
    · rw [ignores, if_pos rfl, ← folded, List.length_map]
    · rw [regards]
      rfl
  have placed : (parse raw).text = marked ++ ((parse raw).content ++ rest) := by rwa [text_parse]
  exact ⟨marked, rest, text, working, withContent_of_text_eq placed length, marks⟩

theorem withContent_content (raw : Text) :
    (parse raw).withContent (parse raw).content = raw := by
  obtain ⟨marked, rest, whole, -, replaced, -⟩ := exists_parts raw
  rw [replaced, ← whole]

section Changed

variable {raw content other : Text} (changes : ChangesArguments allowed content other)

include changes

/-- A marker stands before all calls. -/
theorem dropMarker?_of_changed (unmarked : dropMarker? content = none) :
    dropMarker? other = none := by
  rcases changes.opening with rfl | ⟨opening, rest, more, rfl, rfl⟩
  · exact unmarked
  by_contra marked
  obtain ⟨found, marked⟩ := Option.ne_none_iff_exists'.1 marked
  obtain ⟨front, folded, same⟩ := dropMarker?_eq_some_iff.1 marked
  rw [Option.eq_none_iff_forall_ne_some] at unmarked
  rcases List.append_eq_append_iff.1 same with ⟨inside, reaches, behind⟩ | ⟨inside, reaches, -⟩
  · cases inside with
    | nil =>
        rw [List.append_nil] at reaches
        exact unmarked _ (dropMarker?_eq_some_iff.2 ⟨front, folded, by rw [reaches]⟩)
    | cons head inside =>
        rw [List.cons_append, List.cons.injEq] at behind
        have member : Text.fold '(' ∈ marker := by
          rw [← folded, reaches, behind.1]
          exact List.mem_map_of_mem (by simp)
        exact absurd member (by decide)
  · exact unmarked _ (dropMarker?_eq_some_iff.2 ⟨front, folded, by rw [reaches, List.append_assoc]⟩)

variable (absent : ∀ written arguments, allowed written arguments → ¬separator <:+: arguments)

include absent

/-- With other arguments, the directive is split off in the same place. -/
theorem splitDirective_of_changed {marked rest : Text}
    (whole : raw = marked ++ (content ++ rest))
    (working : (splitDirective raw).1 = marked ++ content) :
    splitDirective (marked ++ (other ++ rest)) = (marked ++ other, (splitDirective raw).2) := by
  rw [← List.append_assoc] at whole ⊢
  cases found : Text.splitAtLast? separator raw with
  | some parts =>
      obtain ⟨before, after⟩ := parts
      have split : splitDirective raw = (Text.trimEnd before, Text.trim after) := by
        rw [splitDirective, found]
      have last := Text.splitAtLast?_separator_append separator_ne_nil
        (Text.not_infix_of_splitAtLast? separator_ne_nil found)
      obtain ⟨blanks, trimmed, -⟩ := Text.exists_blanks_trimEnd before
      rw [split] at working
      dsimp only at working
      have behind : rest = blanks ++ (separator ++ after) := by
        refine List.append_cancel_left (whole.symm.trans ?_)
        rw [Text.eq_append_of_splitAtLast? found, ← working, ← List.append_assoc _ blanks,
          ← trimmed]
      have kept : Text.trimEnd (marked ++ other ++ blanks) = marked ++ other :=
        changes.trimEnd_append (by rw [← working, ← trimmed])
      rw [behind, ← List.append_assoc, splitDirective, Text.splitAtLast?_append_of_some _ last,
        List.append_nil, split]
      exact congrArg (·, Text.trim after) kept
  | none =>
      have unseparated := (Text.splitAtLast?_eq_none_iff separator_ne_nil).1 found
      have split := splitDirective_of_unseparated unseparated
      rw [split] at working
      have nothing : rest = [] := by
        rw [← working] at whole
        simpa using whole
      have still : ¬separator <:+: marked ++ other := by
        intro occurs
        obtain ⟨pieces, changed, rfl⟩ := changes
        have before := LinePiece.infix_of_changed (by decide) (by decide) absent changed occurs
        rw [LinePiece.ofText, LinePiece.flatMap_text_read, ← working] at before
        exact unseparated before
      rw [nothing, List.append_nil, splitDirective_of_unseparated still, split]

end Changed

/-- A line with other arguments for its calls has the directive and the flag that it had. -/
theorem parse_withContent {raw other : Text}
    (changes : ChangesArguments allowed (parse raw).content other)
    (absent : ∀ written arguments, allowed written arguments → ¬separator <:+: arguments) :
    parse ((parse raw).withContent other) =
      ⟨(parse raw).withContent other, other, (parse raw).directive, (parse raw).ignoreCase⟩ := by
  obtain ⟨marked, rest, whole, working, replaced, start⟩ := exists_parts raw
  rw [replaced, parse_eq, splitDirective_of_changed changes absent whole working]
  rcases start with ⟨folded, flagged⟩ | ⟨rfl, unflagged, unmarked⟩
  · dsimp only
    rw [dropMarker?_eq_some_iff.2 ⟨marked, folded, rfl⟩, flagged, parse_eq raw]
    rfl
  · dsimp only
    rw [List.nil_append, List.nil_append, dropMarker?_of_changed changes unmarked, unflagged,
      parse_eq raw]
    rfl

/-- A line with a call in its content is expanded. -/
theorem needsEngine_of_hasKeywordCall {raw : Text}
    (calls : hasKeywordCall (parse raw).content = true) : (parse raw).needsEngine = true := by
  have closes : ')' ∈ (parse raw).content := by
    obtain ⟨written, before, after, -, -, same⟩ := LinePiece.exists_call_of_callsKeyword calls
    rw [same]
    simp [Call.text]
  have solid : Text.isBlank ')' = false := by decide
  have notBlank : ¬(parse raw).isBlank = true := by
    rw [isBlank, Text.isAllBlank, List.all_eq_true]
    intro blank
    rw [blank _ closes] at solid
    cases solid
  have notWord : ¬Text.isBareWord (Text.trimEnd (parse raw).text) = true := by
    obtain ⟨front, behind, same⟩ :=
      List.append_of_mem ((parse_inside raw).1.subset closes)
    rw [text_parse, same, Text.trimEnd_append_cons _ _ solid, Text.isBareWord, Bool.and_eq_true,
      List.all_eq_true]
    exact fun word => absurd (word.2 ')' (by simp)) (by decide)
  have kind := kind_of_not_blank_of_not_word notBlank notWord
  rw [needsEngine_eq_not_isAssembled kind.1 kind.2, isAssembled, calls, Bool.not_true,
    Bool.and_false, Bool.not_false]

end Line

/-! ### Statements -/

/-- Other arguments for a call of a line: they do not take part in splitting the line. -/
def Call.RebindsInLine (names : List Text) (written : Call) (arguments : Text) : Prop :=
  written.Rebinds names arguments ∧ ¬Line.separator <:+: arguments

theorem hasKeywordCall_of_mem_calls {content : Text} {call : KeywordCall}
    (member : call ∈ (AnnotatedText.ofText (Literal.withoutAnchor content)).calls) :
    hasKeywordCall content = true :=
  (hasKeywordCall_iff_met content).2 (List.ne_nil_of_mem member)

namespace Statement

theorem finish_congr {line other : Line} (body : Text) (directive : other.directive = line.directive)
    (anchor : Literal.endsWithAnchor other.content = Literal.endsWithAnchor line.content) :
    finish other body = finish line body := by
  have finished : finishBody other body = finishBody line body := by
    rw [finishBody, finishBody, anchor]
  rw [finish, finish, finished, directiveText_congr directive]

/-- The calls of a line where other arguments are written for a variable. -/
theorem exists_calls_of_rebinds {names : List Text} {content other : Text}
    (changes : ChangesArguments (Call.Rebinds names) content other) (differs : other ≠ content) :
    ∃ call ∈ (AnnotatedText.ofText (Literal.withoutAnchor content)).calls,
      (∃ name, call.lastName? = some name) ∧ hasKeywordCall content = true ∧
        hasKeywordCall other = true := by
  obtain ⟨dropped, whole, otherWhole, kept⟩ := changes.exists_withoutAnchor_append
  rcases AnnotatedText.eq_or_exists_call_of_rebinds kept.forall₂_ofText with
    same | ⟨call, member, binds⟩
  · have shorter := congrArg (List.flatMap LinePiece.text) same
    simp only [LinePiece.ofText, LinePiece.flatMap_text_read] at shorter
    rw [otherWhole, shorter, ← whole] at differs
    exact absurd rfl differs
  · obtain ⟨-, calls⟩ := AnnotatedText.ofPieces_of_rebinds kept.forall₂_ofText
    obtain ⟨next, nextMember⟩ : ∃ next, next ∈
        (AnnotatedText.ofText (Literal.withoutAnchor other)).calls := by
      refine List.exists_mem_of_length_pos ?_
      rw [AnnotatedText.ofText, ← calls.length_eq]
      exact List.length_pos_of_mem member
    exact ⟨call, member, binds, hasKeywordCall_of_mem_calls member,
      hasKeywordCall_of_mem_calls nextMember⟩

/-- Other arguments for variables leave the text of a line as it is, as far as its content
still expands. -/
theorem assembleBy_of_rebinds {judge : PatternJudge} {Fits : Pattern → Prop}
    (sized : judge.ChecksSize Fits) {names : List Text} {raw content : Text}
    (changes : ChangesArguments (Call.RebindsInLine names) (Line.parse raw).content content)
    {statement : Statement} (assembled : assembleBy judge raw = .ok statement) :
    ∃ others, List.Forall₂ (Variable.Rebound names) statement.captured others ∧
      (assembleBy judge ((Line.parse raw).withContent content) =
          .ok ⟨statement.kind, statement.text, others⟩ ∨
        ∃ body, assembleBy judge ((Line.parse raw).withContent content) =
          .error (.content (.invalidPattern body Pattern.Refusal.tooLarge.message))) := by
  by_cases same : content = (Line.parse raw).content
  · rw [same, Line.withContent_content]
    exact ⟨statement.captured, List.forall₂_same.2 fun captured _ => .refl names captured,
      .inl assembled⟩
  have rebinds := changes.mono fun _ _ => And.left
  obtain ⟨call, member, ⟨name, last⟩, calls, stillCalls⟩ := exists_calls_of_rebinds rebinds same
  have parsed := Line.parse_withContent changes fun _ _ => And.right
  have needed := Line.needsEngine_of_hasKeywordCall calls
  have stillNeeded : (Line.parse ((Line.parse raw).withContent content)).needsEngine = true :=
    Line.needsEngine_of_hasKeywordCall (by rwa [parsed])
  obtain ⟨expansion, expanded, rfl⟩ := exists_expansion_of_needsEngine assembled needed
  cases expansion with
  | plain text =>
      obtain ⟨parts, found, -, -, silent⟩ := exists_parts_of_expandWith expanded
      have nameless : parts.flatMap ExpandedPart.boundNames = [] := by
        rw [← map_name_capturedVariables, List.map_eq_nil_iff]
        exact silent.symm
      have bound := AnnotatedText.mem_boundNames_of_mem_calls found member last
      rw [nameless] at bound
      cases bound
  | captures captured text =>
      obtain ⟨others, rebound, outcome⟩ := expandWith_of_rebinds sized rebinds expanded
      have finished : finish (Line.parse ((Line.parse raw).withContent content)) text =
          finish (Line.parse raw) text :=
        finish_congr text (by rw [parsed]) (by rw [parsed]; exact changes.endsWithAnchor_eq)
      have again : expandWith judge
          (Line.parse ((Line.parse raw).withContent content)).content
          (Line.parse ((Line.parse raw).withContent content)).ignoreCase =
            expandWith judge content (Line.parse raw).ignoreCase := by rw [parsed]
      refine ⟨others, rebound, ?_⟩
      rw [assembleBy, assembleWith_of_needsEngine stillNeeded, again]
      rcases outcome with ok | tooLarge
      · left
        rw [ok]
        change Except.ok (⟨.rule, finish _ text, others⟩ : Statement) =
          .ok ⟨.rule, finish _ text, others⟩
        rw [finished]
      · right
        rw [tooLarge]
        exact ⟨text, rfl⟩

/-- Other arguments for variables do not change the statement of a content, nor the names of its
variables and their order, unless the probe is too large with them. Only patterns and options
of the variables named may differ. The same holds for a line whose new arguments hold no
separator. -/
theorem kept_of_rebinds {judge : PatternJudge} {Fits : Pattern → Prop}
    (sized : judge.ChecksSize Fits) (names : List Text) :
    (∀ content other ignoreCase captured statement,
      ChangesArguments (Call.Rebinds names) content other →
        expandWith judge content ignoreCase = .ok (.captures captured statement) →
          ∃ others, List.Forall₂ (Variable.Rebound names) captured others ∧
            (expandWith judge other ignoreCase = .ok (.captures others statement) ∨
              expandWith judge other ignoreCase =
                .error (.invalidPattern statement Pattern.Refusal.tooLarge.message))) ∧
      ∀ raw content statement,
        ChangesArguments (Call.RebindsInLine names) (Line.parse raw).content content →
          assembleBy judge raw = .ok statement →
            ∃ others, List.Forall₂ (Variable.Rebound names) statement.captured others ∧
              (assembleBy judge ((Line.parse raw).withContent content) =
                  .ok ⟨statement.kind, statement.text, others⟩ ∨
                ∃ body, assembleBy judge ((Line.parse raw).withContent content) =
                  .error (.content (.invalidPattern body Pattern.Refusal.tooLarge.message))) :=
  ⟨fun _ _ _ _ _ changes expanded => expandWith_of_rebinds sized changes expanded,
    fun _ _ _ changes assembled => assembleBy_of_rebinds sized changes assembled⟩

/-- An alternative, an option and another name before the last one. -/
theorem changesArguments_sample_line :
    ChangesArguments (Call.RebindsInLine ["id".toList]) "vlan digits(var_id)".toList
      "vlan digits(or_none, var_x,required,,var_id )".toList := by
  have read : LinePiece.ofText "vlan digits(var_id)".toList =
      "vlan ".toList.map .char ++ [.call ⟨"digits".toList, "var_id".toList⟩] := by
    decide +kernel
  have flat : ∀ c ∈ "or_none, var_x,required,,var_id ".toList, (c != '(' && c != ')') = true :=
    List.all_eq_true.1 (by decide)
  have rebinds : (⟨"digits".toList, "var_id".toList⟩ : Call).RebindsInLine ["id".toList]
      "or_none, var_x,required,,var_id ".toList :=
    ⟨⟨Keyword.ofPattern "digits" "\\d+", by decide, by decide, "id".toList, by decide, by decide,
      by decide⟩, by decide⟩
  refine ⟨"vlan ".toList.map .char ++
    [.call ⟨"digits".toList, "or_none, var_x,required,,var_id ".toList⟩], ?_, by decide⟩
  rw [read]
  exact List.rel_append (List.forall₂_same.2 fun piece _ => .same piece)
    (.cons (.call flat rebinds) .nil)

/-- With them, neither the content nor a line with it has another statement. -/
theorem kept_of_rebinds_sample_line :
    Pattern.judge.ChecksSize (fun pattern => pattern.weight true ≤ Pattern.weightLimit) ∧
      expandWith Pattern.judge "vlan digits(var_id)".toList true =
        .ok (.captures [⟨"id".toList, "\\d+".toList, []⟩] "(?i)vlan $\x7bid\x7d".toList) ∧
      (∃ others, List.Forall₂ (Variable.Rebound ["id".toList])
          [⟨"id".toList, "\\d+".toList, []⟩] others ∧
        (expandWith Pattern.judge "vlan digits(or_none, var_x,required,,var_id )".toList true =
            .ok (.captures others "(?i)vlan $\x7bid\x7d".toList) ∨
          expandWith Pattern.judge "vlan digits(or_none, var_x,required,,var_id )".toList true =
            .error (.invalidPattern "(?i)vlan $\x7bid\x7d".toList
              Pattern.Refusal.tooLarge.message))) ∧
      assembleBy Pattern.judge "Ignore_Case vlan digits(var_id) -> Start".toList =
        .ok ⟨.rule, "  ^(?i)vlan $\x7bid\x7d -> Start".toList,
          [⟨"id".toList, "\\d+".toList, []⟩]⟩ ∧
      ∃ others, List.Forall₂ (Variable.Rebound ["id".toList])
          [⟨"id".toList, "\\d+".toList, []⟩] others ∧
        (assembleBy Pattern.judge
            ((Line.parse "Ignore_Case vlan digits(var_id) -> Start".toList).withContent
              "vlan digits(or_none, var_x,required,,var_id )".toList) =
              .ok ⟨.rule, "  ^(?i)vlan $\x7bid\x7d -> Start".toList, others⟩ ∨
          ∃ body, assembleBy Pattern.judge
            ((Line.parse "Ignore_Case vlan digits(var_id) -> Start".toList).withContent
              "vlan digits(or_none, var_x,required,,var_id )".toList) =
                .error (.content (.invalidPattern body Pattern.Refusal.tooLarge.message))) := by
  have content : (Line.parse "Ignore_Case vlan digits(var_id) -> Start".toList).content =
      "vlan digits(var_id)".toList := by decide +kernel
  have expanded : expandWith Pattern.judge "vlan digits(var_id)".toList true =
      .ok (.captures [⟨"id".toList, "\\d+".toList, []⟩] "(?i)vlan $\x7bid\x7d".toList) :=
    eq_ok_of_toOption (by decide +kernel)
  have assembled : assembleBy Pattern.judge "Ignore_Case vlan digits(var_id) -> Start".toList =
      .ok ⟨.rule, "  ^(?i)vlan $\x7bid\x7d -> Start".toList,
        [⟨"id".toList, "\\d+".toList, []⟩]⟩ := eq_ok_of_toOption (by decide +kernel)
  have changes := changesArguments_sample_line
  have kept := kept_of_rebinds Pattern.checksSize_judge ["id".toList]
  exact ⟨Pattern.checksSize_judge, expanded,
    kept.1 _ _ true _ _ (changes.mono fun _ _ => And.left) expanded, assembled,
    kept.2 _ _ _ (by rwa [content]) assembled⟩

end Statement

end LineTemplate
