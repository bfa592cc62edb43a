import LineTemplate.Proofs.Composition
import LineTemplate.Proofs.JoinedLines
import LineTemplate.Proofs.Reassembly

/-!
Contract: the directive of a line in the rule that the line becomes.

Owns:
- `Unpointed`, for the texts in which no separator can begin, and that the text of an expansion
  is one;
- that no body holds a separator, however many the content holds;
- `Statement.rule_carriesDirective`: the directive is found again in the rule.

Does not own: what a directive does.

Every hyphen of a sample is escaped, and a backslash stands between it and a space before it.
The patterns of keywords have hyphens of their own, but none of them follows a space.
-/

namespace LineTemplate

/-! ### Texts without arrows -/

/-- No hyphen of a text follows a space, whatever is written before the text. -/
def Unpointed (text : Text) : Prop := ¬[' ', '-'] <:+: ' ' :: text

instance (text : Text) : Decidable (Unpointed text) := inferInstanceAs (Decidable (¬_))

namespace Unpointed

theorem not_infix_separator {text : Text} (unpointed : Unpointed text) :
    ¬Line.separator <:+: text := by
  intro occurs
  have arrow : [' ', '-'] <:+: Line.separator := by decide
  exact unpointed ((arrow.trans occurs).trans (List.suffix_cons ' ' text).isInfix)

theorem of_not_mem {text : Text} (plain : '-' ∉ text) : Unpointed text := by
  intro occurs
  have member : '-' ∈ ' ' :: text := occurs.subset (by decide)
  rcases List.mem_cons.mp member with same | inside
  · cases same
  · exact plain inside

theorem append {text more : Text} (first : Unpointed text) (second : Unpointed more) :
    Unpointed (text ++ more) := by
  -- The induction passes over the characters of `text`; each stands before the next as the
  -- space stands before the first.
  have behind : ∀ (last : Char), ¬[' ', '-'] <:+: last :: text →
      ¬[' ', '-'] <:+: last :: (text ++ more) := by
    clear first
    induction text with
    | nil =>
        intro last _ occurs
        rw [List.nil_append] at occurs
        rcases List.infix_cons_iff.mp occurs with ⟨rest, same⟩ | later
        · cases same
          exact second ⟨[], rest, rfl⟩
        · exact second (later.trans (List.suffix_cons ' ' more).isInfix)
    | cons next text inductionHypothesis =>
        intro last absent occurs
        rcases List.infix_cons_iff.mp occurs with ⟨rest, same⟩ | later
        · cases same
          exact absent ⟨[], text, rfl⟩
        · apply inductionHypothesis next _ later
          exact fun inside => absent (inside.trans (List.suffix_cons last _).isInfix)
  exact behind ' ' first

theorem composes : Composes Unpointed := ⟨of_not_mem List.not_mem_nil, append⟩

end Unpointed

/-! ### Expanded lines -/

namespace Literal

theorem unpointed_escapeChar (c : Char) : Unpointed (escapeChar c) := by
  by_cases hyphen : c = '-'
  · rw [hyphen]
    decide
  · apply Unpointed.of_not_mem
    unfold escapeChar
    split
    · simp [Ne.symm hyphen]
    · simp [Ne.symm hyphen]

theorem unpointed_encode (text : Text) : Unpointed (encode text) :=
  Unpointed.composes.encode unpointed_escapeChar (by decide) (by decide) text

end Literal

theorem Keyword.unpointed_pattern {keyword : Keyword} (known : keyword ∈ all) :
    Unpointed keyword.pattern := by
  have checked : ∀ keyword ∈ all, Unpointed keyword.pattern := by decide +kernel
  exact checked keyword known

theorem CallArguments.unpointed_pattern {keyword : Keyword} (known : keyword ∈ Keyword.all)
    (arguments : CallArguments) : Unpointed (pattern keyword arguments) := by
  apply Unpointed.composes.pattern (Keyword.unpointed_pattern known)
  · decide
  · decide
  · decide
  · exact fun alternative _ => Unpointed.composes.escape Literal.unpointed_escapeChar alternative

theorem ExpandedPart.unpointed_of_ofCall {call : KeywordCall} {part : ExpandedPart}
    (known : call.keyword ∈ Keyword.all) (expanded : ofCall call = .ok part) :
    Unpointed part.statement := by
  obtain ⟨arguments, read, ⟨-, rfl⟩ | ⟨-, rfl⟩ | ⟨-, captured, named, -, rfl⟩⟩ :=
    ofCall_eq_ok expanded
  · exact Keyword.unpointed_pattern known
  · exact CallArguments.unpointed_pattern known arguments
  · have proper := CallArguments.isVariableName_of_read read captured.name named
    have name : '-' ∉ captured.name := Text.not_mem_of_isVariableName proper (by decide)
    apply Unpointed.of_not_mem
    simp [statement, Variable.reference, name]

theorem unpointed_flagText (ignoreCase : Bool) : Unpointed (flagText ignoreCase) := by
  cases ignoreCase with
  | true => decide
  | false => decide

/-- No separator begins in the text of an expansion. -/
theorem unpointed_of_expandWith {judge : PatternJudge} {content : Text} {ignoreCase : Bool}
    {expansion : Expansion} (expanded : expandWith judge content ignoreCase = .ok expansion) :
    Unpointed expansion.text := by
  obtain ⟨parts, found, -, text, -⟩ := exists_parts_of_expandWith expanded
  have each : ∀ part ∈ parts, Unpointed part.statement :=
    AnnotatedText.forall_parts_of_expandFrom (fun text => Literal.unpointed_encode text)
      (fun call among part made =>
        ExpandedPart.unpointed_of_ofCall (AnnotatedText.keyword_mem_of_mem_calls among) made)
      found
  rw [text]
  exact (unpointed_flagText ignoreCase).append (Unpointed.composes.flatMap each)

/-! ### Bodies -/

/-- A content without inner white space holds no separator: one in it would end the content
with white space, but that was trimmed where the directive was split off. -/
theorem Line.not_infix_content {raw : Text}
    (solid : Statement.hasInnerBlank (parse raw).content = false) :
    ¬separator <:+: (parse raw).content := by
  intro occurs
  have separated : separator <:+: raw := by
    obtain ⟨front, working, -⟩ := exists_marked raw
    have inside : (parse raw).content <:+: (splitDirective raw).1 := by
      rw [working]
      exact (List.suffix_append front _).isInfix
    exact (occurs.trans inside).trans (splitDirective_begins raw).isInfix
  have trimmed := trimEnd_content separated
  obtain ⟨before, after, same⟩ := occurs
  rw [← same] at solid trimmed
  obtain ⟨-, behind⟩ := Statement.forall_blank_of_separator solid
  have blank : Text.isAllBlank (' ' :: after) = true := by
    rw [Text.isAllBlank, List.all_eq_true, List.forall_mem_cons]
    exact ⟨by decide, behind⟩
  have ends : ' ' :: after <:+ before ++ separator ++ after :=
    ⟨before ++ [' ', '-', '>'], by simp [separator]⟩
  cases Text.eq_nil_of_isAllBlank blank (Text.trimEnd_of_suffix ends trimmed)

namespace Statement

/-- No body holds a separator, although contents may. -/
theorem not_infix_bodyOf {judge : PatternJudge} {raw : Text} {expansion : Expansion}
    (expanded : expandWith judge (Line.parse raw).content (Line.parse raw).ignoreCase =
      .ok expansion) :
    ¬Line.separator <:+: bodyOf judge (Line.parse raw) expansion := by
  have written := (unpointed_of_expandWith expanded).not_infix_separator
  cases expansion with
  | captures captured statement => exact written
  | plain text =>
      rw [bodyOf, plainBody]
      split
      · rename_i verbatim
        rw [Bool.and_eq_true, Bool.not_eq_true'] at verbatim
        exact fun occurs =>
          Line.not_infix_content verbatim.2 (infix_of_infix_flagText _ occurs)
      · exact written

/-- Behind a body without a separator, the directive of a line is found again unless it begins
with an arrow. -/
theorem directive_finish_iff {line : Line} {body : Text} (plain : ¬Line.separator <:+: body)
    (single : ¬Line.separator <:+: line.directive)
    (trimmed : Text.trim line.directive = line.directive) :
    (Line.parse (finish line body)).directive = line.directive ↔
      ¬"-> ".toList <+: line.directive := by
  obtain ⟨rest, anchored, whole, -⟩ := exists_content_finish line body
  rw [whole, Line.parse_ruleStart]
  dsimp only
  by_cases absent : line.directive = []
  · have unseparated := not_infix_of_finishBody anchored plain
    rw [directiveText_of_nil absent, List.append_nil,
      Line.splitDirective_of_unseparated unseparated, absent]
    exact iff_of_true rfl (by decide)
  · rw [directiveText_of_ne_nil absent]
    by_cases pointed : "-> ".toList <+: line.directive
    · exact iff_of_false (Line.splitDirective_append_of_pointed rest single pointed)
        (not_not.mpr pointed)
    · refine iff_of_true ?_ pointed
      rw [Line.splitDirective_append_of_not_pointed rest single pointed, trimmed]

/-- A rule carries the directive of its line behind a body without a separator, and has the
same directive as a line, unless the body was put together anew and the directive begins with
an arrow. -/
theorem rule_carriesDirective {judge : PatternJudge} {raw : Text} {statement : Statement}
    (assembled : assembleWith judge (expandWith judge) raw = .ok statement)
    (isRule : statement.kind = .rule) :
    Line.ruleStart <+: statement.text ∧
      ((Line.parse raw).needsEngine = true →
        ∃ body, statement.text = Line.indentation ++ body ++ directiveText (Line.parse raw) ∧
          ¬Line.separator <:+: body) ∧
      ((Line.parse raw).needsEngine = false → statement.text = raw) ∧
      (Line.parse statement.text).ignoreCase = false ∧
      ((Line.parse statement.text).directive = (Line.parse raw).directive ↔
        ((Line.parse raw).needsEngine = true → ¬"-> ".toList <+: (Line.parse raw).directive)) := by
  rcases assembleWith_eq_ok assembled with
    ⟨finished, rfl | rfl | ⟨rfl, begins⟩⟩ | ⟨expansion, unfinished, expanded, rfl⟩
  · cases isRule
  · cases isRule
  · have unmarked : (Line.parse raw).ignoreCase = false := by
      obtain ⟨rest, rfl⟩ := begins
      rw [Line.parse_ruleStart]
    rw [finished]
    exact ⟨begins, nofun, fun _ => rfl, unmarked, iff_of_true rfl nofun⟩
  · have plain := not_infix_bodyOf expanded
    have carried := directive_finish_iff plain (Line.not_infix_directive raw)
      (Line.trim_directive raw)
    obtain ⟨rest, -, whole, -⟩ :=
      exists_content_finish (Line.parse raw) (bodyOf judge (Line.parse raw) expansion)
    have unmarked : (Line.parse (finish (Line.parse raw)
        (bodyOf judge (Line.parse raw) expansion))).ignoreCase = false := by
      rw [whole, Line.parse_ruleStart]
    have begins : Line.ruleStart <+: finish (Line.parse raw)
        (bodyOf judge (Line.parse raw) expansion) := by
      rw [whole]
      exact List.prefix_append Line.ruleStart _
    rw [unfinished]
    refine ⟨begins, fun _ => ?_, nofun, unmarked, ?_⟩
    · exact ⟨finishBody (Line.parse raw) (bodyOf judge (Line.parse raw) expansion), rfl,
        fun occurs => plain (infix_of_infix_finishBody _ occurs)⟩
    · rw [carried]
      exact ⟨fun unpointed _ => unpointed, fun unpointed => unpointed rfl⟩

/-- A separator in the content is escaped, and the one before the directive is the only one. -/
theorem rule_carriesDirective_two_arrows :
    assembleWith Pattern.judge (expandWith Pattern.judge) "a -> b digits() -> Record".toList =
        .ok ⟨.rule, "  ^a \\-> b \\d+ -> Record".toList, []⟩ ∧
      (∃ body, "  ^a \\-> b \\d+ -> Record".toList =
          Line.indentation ++ body ++ " -> Record".toList ∧ ¬Line.separator <:+: body) ∧
      (Line.parse "  ^a \\-> b \\d+ -> Record".toList).ignoreCase = false ∧
      (Line.parse "  ^a \\-> b \\d+ -> Record".toList).directive = "Record".toList :=
  have assembled : assembleWith Pattern.judge (expandWith Pattern.judge)
      "a -> b digits() -> Record".toList = .ok ⟨.rule, "  ^a \\-> b \\d+ -> Record".toList, []⟩ :=
    eq_ok_of_toOption (by decide +kernel)
  have needed : (Line.parse "a -> b digits() -> Record".toList).needsEngine = true := by
    decide +kernel
  have unpointed : ¬"-> ".toList <+: (Line.parse "a -> b digits() -> Record".toList).directive := by
    decide
  have ⟨_, separated, _, unmarked, carried⟩ := rule_carriesDirective assembled rfl
  ⟨assembled, separated needed, unmarked, carried.mpr fun _ => unpointed⟩

/-- A directive that begins with an arrow loses it when the rule is read again. -/
example : (Line.parse "a -> \t-> b".toList).directive = "-> b".toList ∧
    (assembleWith Pattern.judge (expandWith Pattern.judge) "a -> \t-> b".toList).toOption =
      some ⟨.rule, "  ^a -> -> b".toList, []⟩ ∧
    (Line.parse "  ^a -> -> b".toList).directive = "b".toList := by
  decide +kernel

end Statement

end LineTemplate
