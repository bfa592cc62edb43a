import LineTemplate.Proofs.Finishing

/-!
Contract: finished rules, read as raw lines.

Owns:
- the ways in which a raw line gives a statement;
- `Line.KeepsCalls`, the lines whose calls are written down unexpanded;
- which rules still call keywords, and which statements are fixed by being read
  again.

Does not own: the calls of expanded text and the shapes of finished bodies.
-/

namespace LineTemplate

namespace Line

/-- The kinds besides that of blank lines and that of words. -/
theorem kind_of_not_blank_of_not_word {line : Line} (notBlank : ¬line.isBlank = true)
    (notWord : ¬Text.isBareWord (Text.trimEnd line.text) = true) :
    line.kind ≠ .blank ∧ line.kind ≠ .bareWord := by
  rw [kind, if_neg notBlank, if_neg notWord]
  split <;> exact ⟨by decide, by decide⟩

/-- A line that is neither blank nor a word is expanded unless it is a finished rule. -/
theorem needsEngine_eq_not_isAssembled {line : Line} (notBlank : line.kind ≠ .blank)
    (notWord : line.kind ≠ .bareWord) : line.needsEngine = !line.isAssembled := by
  rw [needsEngine]
  cases kind : line.kind with
  | blank => exact absurd kind notBlank
  | bareWord => exact absurd kind notWord
  | punctuation => rfl
  | annotated => rfl

/-- The lines whose calls are written down as they are: nothing is captured, and
the content is itself accepted as a regular expression and has no white space
inside. -/
structure KeepsCalls (judge : PatternJudge) (line : Line) : Prop where
  unfinished : line.needsEngine = true
  uncaptured : ∃ text, expandWith judge line.content line.ignoreCase = .ok (.plain text)
  accepted : judge.accepts line.content = true
  solid : Statement.hasInnerBlank line.content = false
  calls : hasKeywordCall line.content = true

/-- A line that begins as a finished rule does is neither blank nor a word. -/
theorem kind_ruleStart (rest : Text) :
    (parse (ruleStart ++ rest)).kind ≠ .blank ∧ (parse (ruleStart ++ rest)).kind ≠ .bareWord := by
  have solid : ¬(isBlank (parse (ruleStart ++ rest))) := by
    rw [parse_ruleStart, isBlank, Text.isAllBlank, List.all_eq_true]
    intro all
    exact absurd (all '^' (by simp [ruleStart])) (by decide)
  have notWord : ¬Text.isBareWord (Text.trimEnd (parse (ruleStart ++ rest)).text) := by
    have caret : Text.isBlank '^' = false := by decide
    have kept : Text.trimEnd (ruleStart ++ rest) = ' ' :: ' ' :: '^' :: Text.trimEnd rest :=
      Text.trimEnd_append_cons [' ', ' '] rest caret
    have blank : Text.isLowerWord (Text.fold ' ') = false := by decide
    rw [text_parse, kept, Text.isBareWord]
    simp [blank]
  exact kind_of_not_blank_of_not_word solid notWord

end Line

namespace Statement

theorem assembleWith_eq_ok_iff {judge : PatternJudge} {engine : Engine} {raw : Text}
    {statement : Statement} :
    assembleWith judge engine raw = .ok statement ↔
      ofLine judge engine (Line.parse raw) = .ok statement := by
  unfold assembleWith
  cases ofLine judge engine (Line.parse raw) with
  | error cause => simp [Except.mapError]
  | ok other => simp [Except.mapError]

/-- The ways in which a line gives a statement: blank lines give none, words and
finished rules give themselves, and all others are expanded and finished. -/
theorem assembleWith_eq_ok {judge : PatternJudge} {engine : Engine} {raw : Text}
    {statement : Statement} (assembled : assembleWith judge engine raw = .ok statement) :
    ((Line.parse raw).needsEngine = false ∧
      (statement = ⟨.blank, [], []⟩ ∨ statement = ⟨.stateName, raw, []⟩ ∨
        (statement = ⟨.rule, raw, []⟩ ∧ Line.ruleStart <+: raw))) ∨
    (∃ expansion, (Line.parse raw).needsEngine = true ∧
      engine (Line.parse raw).content (Line.parse raw).ignoreCase = .ok expansion ∧
      statement = ⟨.rule, finish (Line.parse raw) (bodyOf judge (Line.parse raw) expansion),
        expansion.captured⟩) := by
  have line := assembleWith_eq_ok_iff.1 assembled
  unfold ofLine at line
  split at line
  · rename_i kind
    cases line
    exact .inl ⟨by simp [Line.needsEngine, kind], .inl rfl⟩
  · rename_i kind
    cases line
    exact .inl ⟨by simp [Line.needsEngine, kind], .inr (.inl (by rw [Line.text_parse]))⟩
  · rename_i notBlank notWord
    split at line
    · rename_i needed
      cases expanded : engine (Line.parse raw).content (Line.parse raw).ignoreCase with
      | error cause =>
          rw [expanded] at line
          cases line
      | ok expansion =>
          rw [expanded] at line
          cases line
          exact .inr ⟨expansion, needed, rfl, rfl⟩
    · rename_i finished
      cases line
      refine .inl ⟨(Bool.not_eq_true _).mp finished, .inr (.inr ⟨by rw [Line.text_parse], ?_⟩)⟩
      have isAssembled : (Line.parse raw).isAssembled = true := by
        simpa [Line.needsEngine_eq_not_isAssembled notBlank notWord] using finished
      rw [Line.isAssembled, Line.text_parse, Bool.and_eq_true] at isAssembled
      exact List.isPrefixOf_iff_prefix.1 isAssembled.1

/-- A line that needs the engine is finished from what the engine makes of it. -/
theorem assembleWith_of_needsEngine {judge : PatternJudge} {engine : Engine} {raw : Text}
    (needed : (Line.parse raw).needsEngine = true) :
    assembleWith judge engine raw =
      ((engine (Line.parse raw).content (Line.parse raw).ignoreCase).map fun expansion =>
        (⟨.rule, finish (Line.parse raw) (bodyOf judge (Line.parse raw) expansion),
          expansion.captured⟩ : Statement)).mapError .content := by
  unfold assembleWith ofLine
  split
  · rename_i kind
    simp [Line.needsEngine, kind] at needed
  · rename_i kind
    simp [Line.needsEngine, kind] at needed
  · rw [if_pos needed]

/-- A finished rule without calls stays as it is. -/
theorem assembleWith_ruleStart (judge : PatternJudge) (engine : Engine) {rest : Text}
    (quiet : hasKeywordCall (Line.parse (Line.ruleStart ++ rest)).content = false) :
    assembleWith judge engine (Line.ruleStart ++ rest) =
      .ok ⟨.rule, Line.ruleStart ++ rest, []⟩ := by
  obtain ⟨notBlank, notWord⟩ := Line.kind_ruleStart rest
  have isAssembled : (Line.parse (Line.ruleStart ++ rest)).isAssembled = true := by
    rw [Line.isAssembled, quiet, Line.text_parse, Bool.not_false, Bool.and_true,
      List.isPrefixOf_iff_prefix]
    exact List.prefix_append _ _
  rw [assembleWith_eq_ok_iff]
  unfold ofLine
  split
  · rename_i kind
    exact absurd kind notBlank
  · rename_i kind
    exact absurd kind notWord
  · rw [Line.needsEngine_eq_not_isAssembled notBlank notWord, isAssembled, Line.text_parse]
    rfl

theorem needsEngine_ruleStart {rest : Text}
    (calls : hasKeywordCall (Line.parse (Line.ruleStart ++ rest)).content = true) :
    (Line.parse (Line.ruleStart ++ rest)).needsEngine = true := by
  obtain ⟨notBlank, notWord⟩ := Line.kind_ruleStart rest
  rw [Line.needsEngine_eq_not_isAssembled notBlank notWord, Line.isAssembled, calls]
  simp

/-- The body of a line calls keywords exactly if its calls are kept. -/
theorem hasKeywordCall_bodyOf {judge : PatternJudge} {line : Line} {expansion : Expansion}
    (unfinished : line.needsEngine = true)
    (expanded : expandWith judge line.content line.ignoreCase = .ok expansion) :
    hasKeywordCall (bodyOf judge line expansion) = true ↔ line.KeepsCalls judge := by
  have quiet := hasKeywordCall_statement expanded
  cases expansion with
  | captures captured statement =>
      refine iff_of_false ?_ fun kept => ?_
      · rw [bodyOf]
        exact (Bool.not_eq_true _).mpr quiet
      · obtain ⟨text, plain⟩ := kept.uncaptured
        rw [expanded] at plain
        cases plain
  | plain text =>
      rw [bodyOf, plainBody]
      split
      · rename_i verbatim
        simp only [Bool.and_eq_true, Bool.not_eq_true'] at verbatim
        rw [hasKeywordCall_flagText]
        exact ⟨fun calls => ⟨unfinished, ⟨text, expanded⟩, verbatim.1, verbatim.2, calls⟩,
          fun kept => kept.calls⟩
      · rename_i escaped
        refine iff_of_false ((Bool.not_eq_true _).mpr quiet) fun kept => escaped ?_
        simp [kept.accepted, kept.solid]

theorem bodyOf_of_keepsCalls {judge : PatternJudge} {line : Line} {expansion : Expansion}
    (kept : line.KeepsCalls judge)
    (expanded : expandWith judge line.content line.ignoreCase = .ok expansion) :
    bodyOf judge line expansion = flagText line.ignoreCase ++ line.content := by
  obtain ⟨text, plain⟩ := kept.uncaptured
  rw [expanded] at plain
  cases plain
  simp [bodyOf, plainBody, kept.accepted, kept.solid]

/-- A rule that was expanded calls keywords, read again, exactly if its line keeps
its calls. -/
theorem hasKeywordCall_content_of_expanded {judge : PatternJudge} {raw : Text}
    {expansion : Expansion} (unfinished : (Line.parse raw).needsEngine = true)
    (expanded : expandWith judge (Line.parse raw).content (Line.parse raw).ignoreCase =
      .ok expansion) :
    hasKeywordCall (Line.parse
        (finish (Line.parse raw) (bodyOf judge (Line.parse raw) expansion))).content = true ↔
      (Line.parse raw).KeepsCalls judge := by
  have single := Line.not_infix_directive raw
  have body := hasKeywordCall_bodyOf unfinished expanded
  by_cases kept : (Line.parse raw).KeepsCalls judge
  · refine iff_of_true ?_ kept
    rw [hasKeywordCall_content_finish single fun _ occurs => ?_, body]
    · exact kept
    · rw [bodyOf_of_keepsCalls kept expanded] at occurs
      have open_ := not_mem_of_infix_separator kept.solid (infix_of_infix_flagText _ occurs)
      have silent := LinePiece.callsKeyword_of_not_mem false open_
      exact absurd (silent.symm.trans kept.calls) (by decide)
  · refine iff_of_false ?_ kept
    rw [Bool.not_eq_true]
    refine hasKeywordCall_content_finish_of_not single ?_
    rw [← Bool.not_eq_true, body]
    exact kept

/-- A body that begins as a finished rule does gets a second beginning. -/
theorem exists_finish_ruleStart (line : Line) (rest : Text) :
    ∃ more, finish line (Line.ruleStart ++ rest) = Line.ruleStart ++ (Line.ruleStart ++ more) := by
  have started : anchorStart (Line.ruleStart ++ rest) = ['^', ' ', ' '] ++ '^' :: rest := rfl
  obtain ⟨more, body⟩ := exists_finishBody_cons line ['^', ' ', ' '] started (by decide)
  exact ⟨more ++ directiveText line, by rw [finish, body]; rfl⟩

theorem hasInnerBlank_ruleStart (rest : Text) :
    hasInnerBlank (Line.ruleStart ++ (Line.ruleStart ++ rest)) = true :=
  hasInnerBlank_of_solid Line.ruleStart (' ' :: '^' :: rest) (by decide)
    ⟨'^', by decide, by decide⟩ ⟨'^', by simp, by decide⟩

/-- A finished rule whose calls are kept is not what it gives itself: written down as
it is, it would need white space inside. -/
theorem not_finish_of_keepsCalls {judge : PatternJudge} {rest : Text} {expansion : Expansion}
    (kept : (Line.parse (Line.ruleStart ++ rest)).KeepsCalls judge)
    (expanded : expandWith judge (Line.parse (Line.ruleStart ++ rest)).content
      (Line.parse (Line.ruleStart ++ rest)).ignoreCase = .ok expansion) :
    finish (Line.parse (Line.ruleStart ++ rest))
        (bodyOf judge (Line.parse (Line.ruleStart ++ rest)) expansion) ≠
      Line.ruleStart ++ rest := by
  intro same
  have content := congrArg Line.content (Line.parse_ruleStart rest)
  have flag := congrArg Line.ignoreCase (Line.parse_ruleStart rest)
  rw [bodyOf_of_keepsCalls kept expanded, flag] at same
  change finish _ (Line.parse (Line.ruleStart ++ rest)).content = _ at same
  obtain ⟨more, twice⟩ := exists_finish_ruleStart (Line.parse (Line.ruleStart ++ rest))
    (Line.splitDirective rest).1
  rw [content, twice] at same
  have behind : rest = Line.ruleStart ++ more := List.append_cancel_left same.symm
  have solid := kept.solid
  rw [content, behind, Line.splitDirective_ruleStart, hasInnerBlank_ruleStart] at solid
  exact absurd solid (by decide)

/-- A rule that begins as a finished one and still calls keywords is not fixed by being
read again. -/
theorem not_fixed_of_hasKeywordCall {judge : PatternJudge} {rest : Text} {statement : Statement}
    (calls : hasKeywordCall (Line.parse (Line.ruleStart ++ rest)).content = true)
    (again : assembleWith judge (expandWith judge) (Line.ruleStart ++ rest) = .ok statement) :
    statement.text ≠ Line.ruleStart ++ rest := by
  intro same
  rcases assembleWith_eq_ok again with ⟨finished, -⟩ | ⟨expansion, needed, expanded, rfl⟩
  · rw [needsEngine_ruleStart calls] at finished
    exact absurd finished (by decide)
  · dsimp only at same
    -- The calls come back only if they are kept, and then the text does not.
    have kept := (hasKeywordCall_content_of_expanded needed expanded).1 (by rw [same]; exact calls)
    exact not_finish_of_keepsCalls kept expanded same

/-- A statement is fixed by being read again, unless its line keeps its calls; then
it is not. -/
theorem assembled_again_iff {judge : PatternJudge} {raw : Text} {statement : Statement}
    (assembled : assembleWith judge (expandWith judge) raw = .ok statement) :
    (assembleWith judge (expandWith judge) statement.text).map Statement.text =
        .ok statement.text ↔
      ¬(Line.parse raw).KeepsCalls judge := by
  rcases assembleWith_eq_ok assembled with
    ⟨finished, given⟩ | ⟨expansion, unfinished, expanded, rfl⟩
  · refine iff_of_true ?_ fun kept => ?_
    · rcases given with rfl | rfl | ⟨rfl, -⟩
      · rfl
      · rw [assembled]
        rfl
      · rw [assembled]
        rfl
    · rw [kept.unfinished] at finished
      exact absurd finished (by decide)
  · have calls := hasKeywordCall_content_of_expanded unfinished expanded
    obtain ⟨rest, -, whole, -⟩ :=
      exists_content_finish (Line.parse raw) (bodyOf judge (Line.parse raw) expansion)
    dsimp only
    rw [whole] at calls ⊢
    constructor
    · intro fixed kept
      cases again : assembleWith judge (expandWith judge)
          (Line.ruleStart ++ (rest ++ directiveText (Line.parse raw))) with
      | error cause =>
          rw [again] at fixed
          cases fixed
      | ok statement =>
          rw [again] at fixed
          exact not_fixed_of_hasKeywordCall (calls.2 kept) again (Except.ok.inj fixed)
    · intro lost
      have quiet := (Bool.not_eq_true _).mp (mt calls.1 lost)
      rw [assembleWith_ruleStart judge (expandWith judge) quiet]
      rfl

/-- The rule of a lone call is not fixed: the line keeps its call. -/
theorem assembled_again_lone_call :
    assembleWith Pattern.judge (expandWith Pattern.judge) "digits()".toList =
        .ok ⟨.rule, "  ^digits()".toList, []⟩ ∧
      ((assembleWith Pattern.judge (expandWith Pattern.judge) "  ^digits()".toList).map
            Statement.text = .ok "  ^digits()".toList ↔
          ¬(Line.parse "digits()".toList).KeepsCalls Pattern.judge) :=
  have assembled : assembleWith Pattern.judge (expandWith Pattern.judge) "digits()".toList =
      .ok ⟨.rule, "  ^digits()".toList, []⟩ := eq_ok_of_toOption (by decide +kernel)
  ⟨assembled, assembled_again_iff assembled⟩

/-- A rule from a line that was no finished rule calls no keyword, exactly unless its
line keeps its calls. -/
theorem rule_silent_iff {judge : PatternJudge} {raw : Text} {statement : Statement}
    (assembled : assembleWith judge (expandWith judge) raw = .ok statement)
    (isRule : statement.kind = .rule) (unfinished : ¬Line.ruleStart <+: raw) :
    hasKeywordCall (Line.parse statement.text).content = false ↔
      ¬(Line.parse raw).KeepsCalls judge := by
  rcases assembleWith_eq_ok assembled with
    ⟨-, rfl | rfl | ⟨-, finished⟩⟩ | ⟨expansion, needed, expanded, rfl⟩
  · cases isRule
  · cases isRule
  · exact absurd finished unfinished
  · rw [← hasKeywordCall_content_of_expanded needed expanded, Bool.not_eq_true]

/-- A call behind a word gives a rule without calls. -/
theorem rule_silent_call_behind_word :
    (assembleWith Pattern.judge (expandWith Pattern.judge) "vlan digits()".toList =
          .ok ⟨.rule, "  ^vlan \\d+".toList, []⟩ ∧
        ¬Line.ruleStart <+: "vlan digits()".toList) ∧
      (hasKeywordCall (Line.parse "  ^vlan \\d+".toList).content = false ↔
        ¬(Line.parse "vlan digits()".toList).KeepsCalls Pattern.judge) :=
  have assembled : assembleWith Pattern.judge (expandWith Pattern.judge) "vlan digits()".toList =
      .ok ⟨.rule, "  ^vlan \\d+".toList, []⟩ := eq_ok_of_toOption (by decide +kernel)
  have unfinished : ¬Line.ruleStart <+: "vlan digits()".toList := by decide
  ⟨⟨assembled, unfinished⟩, rule_silent_iff assembled rfl unfinished⟩

/-- A lone call is written down as it is, although a keyword is called. -/
theorem lone_call_kept :
    ¬Line.ruleStart <+: "digits()".toList ∧
      assemble "digits()".toList = .ok ⟨.rule, "  ^digits()".toList, []⟩ ∧
      hasKeywordCall (Line.parse "  ^digits()".toList).content = true :=
  ⟨by decide, eq_ok_of_toOption (by decide +kernel), by decide +kernel⟩

end Statement

end LineTemplate
