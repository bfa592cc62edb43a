import LineTemplate.Proofs.LighterPatterns
import LineTemplate.Proofs.LongerLines
import LineTemplate.Proofs.MarkedLines
import LineTemplate.Proofs.RestoredAnchors

/-!
Contract: what a second dollar sign at the end of a line changes.

Owns:
- how a line is taken apart with one more dollar sign at its end;
- what that adds to its expansion and to its content;
- `Statement.repeated_anchor_iff`: the variables stay the same, and the rule does
  exactly if the content is written down as it is.

Does not own: rules whose line has a directive.
-/

namespace LineTemplate

open Literal

/-! ### Lines -/

theorem Literal.exists_of_endsWithAnchor {text : Text} (anchored : endsWithAnchor text = true) :
    ∃ front, text = front ++ ['$'] := by
  rcases List.eq_nil_or_concat text with rfl | ⟨front, last, rfl⟩
  · cases anchored
  · refine ⟨front, ?_⟩
    by_contra other
    have different : last ≠ '$' := by
      rintro rfl
      exact other List.concat_eq_append
    simp [endsWithAnchor, anchorLeads, different] at anchored

/-- A dollar sign behind an anchor is one. -/
theorem Literal.endsWithAnchor_append_dollar {text : Text}
    (anchored : endsWithAnchor text = true) : endsWithAnchor (text ++ ['$']) = true := by
  obtain ⟨front, rfl⟩ := exists_of_endsWithAnchor anchored
  simp [endsWithAnchor, anchorLeads]

namespace Line

/-- A dollar sign completes no marker. -/
theorem dropMarker?_append_dollar (text : Text) :
    dropMarker? (text ++ ['$']) = (dropMarker? text).map (· ++ ['$']) := by
  unfold dropMarker?
  by_cases long : marker.length ≤ text.length
  · rw [List.take_append_of_le_length long, List.drop_append_of_le_length long]
    split <;> rfl
  · have short : text.length + 1 ≤ marker.length := by omega
    rw [if_neg, if_neg]
    · rfl
    · intro same
      have length := congrArg List.length same
      simp only [List.length_map, List.length_take] at length
      omega
    · intro same
      rw [List.take_of_length_le (by simpa using short)] at same
      have last := congrArg List.getLast? same
      simp only [List.map_append, List.map_cons, List.map_nil, List.getLast?_concat] at last
      exact absurd last (by decide)

section Repeated

variable {raw : Text} (unseparated : ¬separator <:+: raw)

include unseparated

theorem parse_of_unseparated :
    parse raw = ⟨raw, (dropMarker? raw).getD raw, [], (dropMarker? raw).isSome⟩ := by
  rw [parse_eq, splitDirective_of_unseparated unseparated]

theorem directive_of_unseparated : (parse raw).directive = [] := by
  rw [parse_of_unseparated unseparated]

theorem endsWithAnchor_content : endsWithAnchor (parse raw).content = endsWithAnchor raw := by
  rw [parse_of_unseparated unseparated]
  cases found : dropMarker? raw with
  | none => rfl
  | some content =>
      obtain ⟨marked, folded, rfl⟩ := dropMarker?_eq_some_iff.mp found
      obtain ⟨front, rfl⟩ := exists_bare_of_map_fold folded
      rw [List.append_assoc]
      exact (endsWithAnchor_append front content (by decide) (by decide)).symm

theorem parse_append_dollar :
    parse (raw ++ ['$']) =
      ⟨raw ++ ['$'], (parse raw).content ++ ['$'], [], (parse raw).ignoreCase⟩ := by
  have disjoint : ∀ c ∈ separator, c ∉ ['$'] := by
    intro c member dollar
    rw [List.mem_singleton.1 dollar] at member
    exact absurd member (by decide)
  have still : ¬separator <:+: raw ++ ['$'] := fun occurs =>
    unseparated (Text.infix_of_infix_append disjoint separator_ne_nil occurs)
  rw [parse_of_unseparated still, parse_of_unseparated unseparated, dropMarker?_append_dollar]
  cases dropMarker? raw <;> rfl

/-- A dollar sign makes no line a finished rule. -/
theorem isAssembled_append_dollar :
    (parse (raw ++ ['$'])).isAssembled = (parse raw).isAssembled := by
  have begins : (indentation ++ ['^']).isPrefixOf (raw ++ ['$']) =
      (indentation ++ ['^']).isPrefixOf raw := by
    rw [Bool.eq_iff_iff, List.isPrefixOf_iff_prefix, List.isPrefixOf_iff_prefix,
      List.prefix_concat_iff]
    refine or_iff_right fun same => ?_
    have last := congrArg List.getLast? same
    rw [List.getLast?_concat, List.getLast?_concat] at last
    cases last
  rw [isAssembled, isAssembled, parse_append_dollar unseparated, text_parse]
  dsimp only
  rw [begins, Statement.hasKeywordCall_append_of_not_mem _ (by decide)]

end Repeated

/-- A line with an anchor at its end, and the line with another dollar sign behind that. -/
structure RepeatsAnchor (line repeated : Line) : Prop where
  anchored : endsWithAnchor line.content = true
  content : repeated.content = line.content ++ ['$']
  ignoreCase : repeated.ignoreCase = line.ignoreCase

theorem RepeatsAnchor.again {line repeated : Line} (repeats : RepeatsAnchor line repeated) :
    endsWithAnchor repeated.content = true := by
  rw [repeats.content]
  exact endsWithAnchor_append_dollar repeats.anchored

theorem repeatsAnchor_parse {raw : Text} (unseparated : ¬separator <:+: raw)
    (anchored : endsWithAnchor raw = true) :
    RepeatsAnchor (parse raw) (parse (raw ++ ['$'])) where
  anchored := by rwa [endsWithAnchor_content unseparated]
  content := by rw [parse_append_dollar unseparated]
  ignoreCase := by rw [parse_append_dollar unseparated]

/-- A line with an anchor at its end is expanded unless it is a finished rule. -/
theorem needsEngine_of_anchored {raw : Text}
    (content : endsWithAnchor (parse raw).content = true) (anchored : endsWithAnchor raw = true)
    (unfinished : (parse raw).isAssembled = false) : (parse raw).needsEngine = true := by
  have notBlank : ¬(parse raw).isBlank = true := by
    obtain ⟨front, same⟩ := exists_of_endsWithAnchor content
    rw [isBlank, same, Text.isAllBlank, List.all_eq_true]
    exact fun blank => absurd (blank '$' (by simp)) (by decide)
  have notWord : ¬Text.isBareWord (Text.trimEnd (parse raw).text) = true := by
    obtain ⟨front, rfl⟩ := exists_of_endsWithAnchor anchored
    have kept : Text.trimEnd (front ++ ['$']) = front ++ ['$'] :=
      Text.trimEnd_append_cons front [] (by decide)
    rw [text_parse, kept, Text.isBareWord, Bool.and_eq_true, List.all_eq_true]
    exact fun word => absurd (word.2 '$' (by simp)) (by decide)
  have kind := kind_of_not_blank_of_not_word notBlank notWord
  rw [needsEngine_eq_not_isAssembled kind.1 kind.2, unfinished]
  rfl

end Line

/-! ### Expansions -/

section Expansions

variable {judge : PatternJudge} {line repeated : Line} {expansion other : Expansion}

/-- What is expanded of a content with an anchor, and of one with another dollar sign. -/
theorem Literal.withoutAnchor_of_anchored {content : Text}
    (anchored : endsWithAnchor content = true) :
    ∃ more, content = withoutAnchor content ++ more ∧ withoutAnchor (content ++ ['$']) = content ∧
      ')' ∉ more ∧ Text.isAllBlank more = false ∧ more.count '$' = 1 := by
  obtain ⟨front, rfl⟩ := exists_of_endsWithAnchor anchored
  have kept : ∀ front, Text.trimEnd (front ++ ['$']) = front ++ ['$'] := fun front =>
    Text.trimEnd_append_cons front [] (by decide)
  have again := endsWithAnchor_append_dollar anchored
  obtain ⟨blanks, same, blank⟩ := Text.exists_blanks_trimEnd front
  refine ⟨blanks ++ ['$'], ?_, ?_, ?_, ?_, ?_⟩
  · rw [withoutAnchor, kept, if_pos anchored, List.dropLast_concat, ← List.append_assoc, ← same]
  · rw [withoutAnchor, kept, if_pos again, List.dropLast_concat, kept]
  · intro member
    rcases List.mem_append.1 member with inside | last
    · exact absurd (blank _ inside) (by decide)
    · exact absurd last (by decide)
  · rw [Text.isAllBlank, List.all_append]
    exact Bool.and_false _
  · rw [List.count_append, count_dollar_of_blank blank]
    rfl

/-- Without calls, the text of an expansion is the content in literal text. -/
theorem text_of_not_hasKeywordCall {content : Text} {ignoreCase : Bool}
    (quiet : hasKeywordCall (withoutAnchor content) = false)
    (expanded : expandWith judge content ignoreCase = .ok expansion) :
    expansion.text = flagText ignoreCase ++ encode (withoutAnchor content) := by
  obtain ⟨parts, found, -, text, -⟩ := exists_parts_of_expandWith expanded
  rw [AnnotatedText.ofText_of_not_hasKeywordCall quiet] at found
  cases found
  rw [text, List.flatMap_singleton]
  rfl

theorem count_dollar_flagText (ignoreCase : Bool) : (flagText ignoreCase).count '$' = 0 := by
  cases ignoreCase <;> rfl

/-- With another dollar sign behind its anchor, a line captures the same, and its text has
one more dollar sign. -/
theorem expansions_of_repeated (repeats : line.RepeatsAnchor repeated)
    (expanded : expandWith judge line.content line.ignoreCase = .ok expansion)
    (again : expandWith judge repeated.content repeated.ignoreCase = .ok other) :
    other.captured = expansion.captured ∧
      other.text.count '$' = expansion.text.count '$' + 1 ∧
      EndsPlainly expansion.text ∧ EndsPlainly other.text := by
  obtain ⟨parts, found, -, text, captured⟩ := exists_parts_of_expandWith expanded
  obtain ⟨longer, extended, -, otherText, otherCaptured⟩ := exists_parts_of_expandWith again
  obtain ⟨more, split, whole, open_, solid, one⟩ := withoutAnchor_of_anchored repeats.anchored
  have calls : AnnotatedText.ofText (withoutAnchor repeated.content) =
      .append (AnnotatedText.ofText (withoutAnchor line.content)).leading
        (AnnotatedText.ofText (withoutAnchor line.content)).calls more := by
    rw [repeats.content, whole, ← AnnotatedText.ofText_append _ open_, ← split]
  rw [AnnotatedText.expand, calls] at extended
  obtain ⟨unended, otherUnended, front, last, end_, rfl, rfl, count⟩ :=
    AnnotatedText.exists_parts_of_expandFrom_append found extended solid
  refine ⟨?_, ?_, (endsPlainly_of_expandWith expanded).1 unended,
    (endsPlainly_of_expandWith again).1 ?_⟩
  · rw [captured, otherCaptured, List.filterMap_append, List.filterMap_append]
    rfl
  · simp only [text, otherText, repeats.ignoreCase, List.flatMap_append, List.flatMap_singleton,
      List.count_append, ExpandedPart.statement, count_dollar_encode, count, one]
    omega
  · rw [Line.EndsByCall, calls]
    exact otherUnended

end Expansions

/-! ### Finished bodies -/

namespace Statement

theorem count_dollar_anchorStart (body : Text) :
    (anchorStart body).count '$' = body.count '$' := by
  rcases anchorStart_cases body with ⟨rest, rfl, same⟩ | ⟨rest, -, same⟩ | same
  · rw [same, List.count_append, List.count_cons_of_ne (by decide), List.count_append,
      List.count_cons_of_ne (by decide)]
  · rw [same]
  · rw [same, List.count_cons_of_ne (by decide)]

/-- A body without an anchor gets one. -/
theorem count_dollar_finishBody_of_endsPlainly {line : Line} {body : Text}
    (anchored : endsWithAnchor line.content = true) (plain : EndsPlainly body) :
    (finishBody line body).count '$' = body.count '$' + 1 := by
  have closed : finishBody line body = anchorEnd (anchorStart body) := if_pos anchored
  rw [closed, anchorEnd_of_endsPlainly (endsPlainly_anchorStart plain), List.count_append,
    count_dollar_anchorStart]
  rfl

/-- A body with an anchor gets no more. -/
theorem count_dollar_finishBody_of_anchored {line : Line} {body : Text}
    (anchored : endsWithAnchor line.content = true) (ends : endsWithAnchor body = true) :
    (finishBody line body).count '$' ≤ body.count '$' := by
  have closed : finishBody line body = anchorEnd (anchorStart body) := if_pos anchored
  rw [closed, ← count_dollar_anchorStart body]
  rcases anchorEnd_cases (anchorStart body) with ⟨-, core, count, same, single⟩ | ⟨unanchored, -⟩
  · rw [single, same, List.count_append, List.count_append, List.count_cons_self,
      List.count_cons_self, List.count_nil]
    omega
  · rw [endsWithAnchor_anchorStart, ends] at unanchored
    cases unanchored

/-- A second dollar sign behind the anchor of a body is left out. -/
theorem anchorEnd_append_dollar {body : Text} (anchored : endsWithAnchor body = true) :
    anchorEnd (body ++ ['$']) = anchorEnd body := by
  have leads : anchorLeads body.reverse = true := anchored
  rw [anchorEnd, List.reverse_concat, closeReversed, dropSurplusAnchors, if_pos leads]
  rfl

/-! ### Contents -/

theorem hasInnerBlank_append_dollar {content : Text} (anchored : endsWithAnchor content = true) :
    hasInnerBlank (content ++ ['$']) = hasInnerBlank content := by
  obtain ⟨front, rfl⟩ := exists_of_endsWithAnchor anchored
  have blank : Text.isBlank '$' = false := by decide
  have start : ∀ front, Text.trimStart (front ++ ['$']) = Text.trimStart front ++ ['$'] := by
    intro front
    rw [Text.trimStart, List.dropWhile_append, List.dropWhile_cons_of_neg (by simp [blank])]
    split
    · rename_i nothing
      rw [Text.trimStart, List.isEmpty_iff.1 nothing]
      rfl
    · rfl
  have kept : ∀ front, Text.trim (front ++ ['$']) = Text.trimStart front ++ ['$'] := by
    intro front
    rw [Text.trim, start]
    exact Text.trimEnd_append_cons _ [] blank
  rw [hasInnerBlank, hasInnerBlank, kept, kept, start, List.any_append, List.any_append]
  simp [blank]

/-- A content is written down as it is if that is so with another dollar sign behind its
anchor, and the judge accepts what is shortened so. -/
theorem isVerbatim_of_repeated {judge : PatternJudge} (shortens : judge.AcceptsShortened)
    {line repeated : Line} {expansion other : Expansion} (repeats : line.RepeatsAnchor repeated)
    (expanded : expandWith judge line.content line.ignoreCase = .ok expansion)
    (again : expandWith judge repeated.content repeated.ignoreCase = .ok other)
    (verbatim : repeated.IsVerbatim judge) : line.IsVerbatim judge where
  uncaptured := by
    obtain ⟨text, plain⟩ := verbatim.uncaptured
    rw [again] at plain
    cases plain
    obtain ⟨captured, -⟩ := expansions_of_repeated repeats expanded again
    exact ⟨expansion.text,
      expanded.trans (congrArg _ (eq_plain_of_expandWith expanded captured.symm))⟩
  accepted := by
    obtain ⟨front, same⟩ := exists_of_endsWithAnchor repeats.anchored
    have accepted := verbatim.accepted
    rw [repeats.content, same, List.append_assoc] at accepted
    rw [same]
    exact shortens _ accepted
  solid := by
    rw [← hasInnerBlank_append_dollar repeats.anchored, ← repeats.content]
    exact verbatim.solid

/-- A content with a repeated anchor is finished as the one with a single anchor. -/
theorem finishBody_repeated {line repeated : Line} (repeats : line.RepeatsAnchor repeated) :
    finishBody repeated repeated.flaggedContent = finishBody line line.flaggedContent := by
  have whole : repeated.flaggedContent = line.flaggedContent ++ ['$'] := by
    rw [Line.flaggedContent, Line.flaggedContent, repeats.ignoreCase, repeats.content,
      List.append_assoc]
  have ends : endsWithAnchor (anchorStart line.flaggedContent) = true := by
    rw [endsWithAnchor_anchorStart, Line.flaggedContent, endsWithAnchor_flagText]
    exact repeats.anchored
  rw [finishBody, finishBody, repeats.again, repeats.anchored, if_pos rfl, if_pos rfl, whole,
    anchorStart_append_dollar, anchorEnd_append_dollar ends]

/-- An expansion is never finished as a content is that is the same line with one dollar sign
less at its end, or as its expansion is. -/
theorem finishBody_repeated_ne {line repeated : Line} {judge : PatternJudge}
    {expansion other : Expansion} (repeats : line.RepeatsAnchor repeated)
    (expanded : expandWith judge line.content line.ignoreCase = .ok expansion)
    (again : expandWith judge repeated.content repeated.ignoreCase = .ok other) :
    finishBody repeated other.text ≠ finishBody line (bodyOf judge line expansion) := by
  intro same
  obtain ⟨-, count, plain, otherPlain⟩ := expansions_of_repeated repeats expanded again
  have otherCount := count_dollar_finishBody_of_endsPlainly repeats.again otherPlain
  rw [same] at otherCount
  rcases bodyOf_cases expanded with ⟨-, body⟩ | ⟨-, body⟩ <;> rw [body] at same otherCount
  · by_cases calls : hasKeywordCall line.content = true
    · -- The content still calls a keyword, and no expansion does.
      have kept := congrArg hasKeywordCall same
      rw [hasKeywordCall_finishBody, hasKeywordCall_finishBody, hasKeywordCall_statement again,
        Line.flaggedContent, hasKeywordCall_flagText, calls] at kept
      cases kept
    · rw [Bool.not_eq_true] at calls
      obtain ⟨more, -, whole, -⟩ := withoutAnchor_of_anchored repeats.anchored
      rw [← whole, ← repeats.content] at calls
      have literal := text_of_not_hasKeywordCall calls again
      have ends : endsWithAnchor line.flaggedContent = true := by
        rw [Line.flaggedContent, endsWithAnchor_flagText]
        exact repeats.anchored
      have bound := count_dollar_finishBody_of_anchored repeats.anchored ends
      rw [literal, repeats.content, whole, List.count_append, count_dollar_flagText,
        count_dollar_encode] at otherCount
      rw [otherCount, Line.flaggedContent, List.count_append, count_dollar_flagText] at bound
      omega
  · rw [count_dollar_finishBody_of_endsPlainly repeats.anchored plain] at otherCount
    omega

/-- Another dollar sign at the end of a line with an anchor there changes no variable, and
keeps the rule exactly if the content is then written down as it is. -/
theorem repeated_anchor_iff {judge : PatternJudge} (shortens : judge.AcceptsShortened)
    {raw : Text} {single repeated : Statement} (assembled : assembleBy judge raw = .ok single)
    (again : assembleBy judge (raw ++ ['$']) = .ok repeated)
    (unseparated : ¬Line.separator <:+: raw) (unfinished : (Line.parse raw).isAssembled = false)
    (anchored : endsWithAnchor raw = true) :
    repeated.captured = single.captured ∧
      (repeated.text = single.text ↔ (Line.parse (raw ++ ['$'])).IsVerbatim judge) := by
  have repeats := Line.repeatsAnchor_parse unseparated anchored
  obtain ⟨expansion, expanded, rfl⟩ := exists_expansion_of_needsEngine assembled
    (Line.needsEngine_of_anchored repeats.anchored anchored unfinished)
  obtain ⟨other, expandedAgain, rfl⟩ := exists_expansion_of_needsEngine again
    (Line.needsEngine_of_anchored repeats.again (endsWithAnchor_append_dollar anchored)
      (by rw [Line.isAssembled_append_dollar unseparated, unfinished]))
  refine ⟨(expansions_of_repeated repeats expanded expandedAgain).1, ?_⟩
  have undirected : ∀ {line : Line} (body : Text), line.directive = [] →
      finish line body = Line.indentation ++ finishBody line body := by
    intro line body none
    rw [finish, directiveText_of_nil none, List.append_nil]
  rw [undirected _ (Line.directive_of_unseparated unseparated),
    undirected _ (by rw [Line.parse_append_dollar unseparated]), List.append_cancel_left_eq]
  rcases bodyOf_cases expandedAgain with ⟨verbatim, same⟩ | ⟨engine, same⟩ <;> rw [same]
  · refine iff_of_true ?_ verbatim
    rcases bodyOf_cases expanded with ⟨-, first⟩ | ⟨engine, -⟩
    · rw [first, finishBody_repeated repeats]
    · exact absurd (isVerbatim_of_repeated shortens repeats expanded expandedAgain verbatim)
        engine
  · exact iff_of_false (finishBody_repeated_ne repeats expanded expandedAgain) engine

/-- A content that is written down as it is ends with one anchor, however many it has. -/
theorem repeated_anchor_collapsed :
    (Pattern.judge.AcceptsShortened ∧
        assembleBy Pattern.judge "abc$".toList = .ok ⟨.rule, "  ^abc$".toList, []⟩ ∧
        assembleBy Pattern.judge ("abc$".toList ++ ['$']) = .ok ⟨.rule, "  ^abc$".toList, []⟩ ∧
        ¬Line.separator <:+: "abc$".toList ∧
        (Line.parse "abc$".toList).isAssembled = false ∧
        endsWithAnchor "abc$".toList = true) ∧
      ([] : List Variable) = [] ∧
      ("  ^abc$".toList = "  ^abc$".toList ↔
        (Line.parse ("abc$".toList ++ ['$'])).IsVerbatim Pattern.judge) :=
  have shortens := Pattern.acceptsShortened_judge
  have assembled : assembleBy Pattern.judge "abc$".toList =
      .ok ⟨.rule, "  ^abc$".toList, []⟩ := eq_ok_of_toOption (by decide +kernel)
  have again : assembleBy Pattern.judge ("abc$".toList ++ ['$']) =
      .ok ⟨.rule, "  ^abc$".toList, []⟩ := eq_ok_of_toOption (by decide +kernel)
  have unseparated : ¬Line.separator <:+: "abc$".toList := by decide
  have unfinished : (Line.parse "abc$".toList).isAssembled = false := by decide +kernel
  have anchored : endsWithAnchor "abc$".toList = true := by decide
  ⟨⟨shortens, assembled, again, unseparated, unfinished, anchored⟩,
    repeated_anchor_iff shortens assembled again unseparated unfinished anchored⟩

/-- Behind a variable, all dollar signs but the last one are taken for literal text. -/
theorem repeated_anchor_escaped :
    assemble "total digits(var_n)$".toList =
        .ok ⟨.rule, "  ^total $\x7bn\x7d$".toList, [⟨"n".toList, "\\d+".toList, []⟩]⟩ ∧
      assemble ("total digits(var_n)$".toList ++ ['$']) =
        .ok ⟨.rule, "  ^total $\x7bn\x7d\\$$".toList, [⟨"n".toList, "\\d+".toList, []⟩]⟩ ∧
      ¬Line.separator <:+: "total digits(var_n)$".toList ∧
      (Line.parse "total digits(var_n)$".toList).isAssembled = false ∧
      endsWithAnchor "total digits(var_n)$".toList = true ∧
      "  ^total $\x7bn\x7d\\$$".toList ≠ "  ^total $\x7bn\x7d$".toList :=
  ⟨eq_ok_of_toOption (by decide +kernel), eq_ok_of_toOption (by decide +kernel), by decide,
    by decide +kernel, by decide, by decide⟩

end Statement

end LineTemplate
