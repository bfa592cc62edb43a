import LineTemplate.Proofs.ExpandedCalls
import LineTemplate.Proofs.Separation
import LineTemplate.Statement

/-!
Contract: what finishing does to a body.

Owns:
- the shapes that the anchors of a body take;
- that finishing and reading the finished rule again keep the calls of a body;
- where a finished rule is taken apart again.

Does not own: which body a line has.
-/

namespace LineTemplate

namespace Text

/-- A word lies before the characters behind it that it does not hold. -/
theorem infix_of_infix_append {word text more : Text} (disjoint : ∀ c ∈ word, c ∉ more)
    (nonempty : word ≠ []) (occurs : word <:+: text ++ more) : word <:+: text := by
  obtain ⟨before, after, same⟩ := occurs
  rcases List.append_eq_append_iff.1 same with ⟨inside, rfl, -⟩ | ⟨inside, reach, rfl⟩
  · exact ⟨before, inside, rfl⟩
  · rcases List.eq_nil_or_concat inside with rfl | ⟨init, last, rfl⟩
    · exact ⟨before, [], by simpa using reach⟩
    · obtain ⟨front, end_, rfl⟩ := (List.eq_nil_or_concat word).resolve_left nonempty
      simp only [List.concat_eq_append, ← List.append_assoc] at reach
      have shared : end_ = last := by simpa using (List.append_inj' reach rfl).2
      exact absurd (by simp [shared]) (disjoint end_ (by simp))

/-- A word lies behind characters among which its own first one is not. -/
theorem infix_of_infix_append_left {first : Char} {rest before text : Text}
    (disjoint : first ∉ before) (occurs : first :: rest <:+: before ++ text) :
    first :: rest <:+: text := by
  induction before with
  | nil => exact occurs
  | cons head before inductionHypothesis =>
      rcases List.infix_cons_iff.mp occurs with begins | later
      · obtain ⟨after, same⟩ := begins
        rw [List.cons_append, List.cons.injEq] at same
        exact absurd (by simp [same.1]) disjoint
      · exact inductionHypothesis (List.not_mem_of_not_mem_cons disjoint) later

/-- A word lies behind a character that it does not hold. -/
theorem infix_of_infix_cons {word text : Text} {first : Char} (disjoint : first ∉ word)
    (nonempty : word ≠ []) (occurs : word <:+: first :: text) : word <:+: text := by
  cases word with
  | nil => exact absurd rfl nonempty
  | cons head rest =>
      rw [← List.singleton_append] at occurs
      have other : head ∉ [first] := by
        rw [List.mem_singleton]
        rintro rfl
        exact disjoint List.mem_cons_self
      exact infix_of_infix_append_left other occurs

end Text

namespace Statement

/-! ### Anchors -/

theorem exists_dropSurplusAnchors (reversed : Text) :
    ∃ count, reversed = List.replicate count '$' ++ dropSurplusAnchors reversed := by
  induction reversed with
  | nil => exact ⟨0, rfl⟩
  | cons first before inductionHypothesis =>
      by_cases surplus : first = '$' ∧ Literal.anchorLeads before
      · obtain ⟨rfl, leads⟩ := surplus
        obtain ⟨count, same⟩ := inductionHypothesis
        refine ⟨count + 1, ?_⟩
        rw [dropSurplusAnchors, if_pos leads, List.replicate_succ, List.cons_append, ← same]
      · have kept : dropSurplusAnchors (first :: before) = first :: before := by
          unfold dropSurplusAnchors
          split
          · rename_i other same
            cases same
            exact if_neg fun leads => surplus ⟨rfl, leads⟩
          · rfl
        exact ⟨0, by rw [kept, List.replicate_zero, List.nil_append]⟩

/-- Closing a text changes nothing but the number of dollar signs at its end. -/
theorem exists_anchorEnd (body : Text) :
    ∃ core given kept, body = core ++ List.replicate given '$' ∧
      anchorEnd body = core ++ List.replicate kept '$' := by
  obtain ⟨count, same⟩ := exists_dropSurplusAnchors body.reverse
  refine ⟨(dropSurplusAnchors body.reverse).reverse, count, ?_⟩
  have whole : body = (dropSurplusAnchors body.reverse).reverse ++ List.replicate count '$' := by
    rw [← List.reverse_inj, same]
    simp [← same]
  by_cases leads : Literal.anchorLeads (dropSurplusAnchors body.reverse)
  · exact ⟨0, whole, by simp [anchorEnd, closeReversed, leads]⟩
  · exact ⟨1, whole, by simp [anchorEnd, closeReversed, leads]⟩

/-- The two ways in which the anchor comes to the front: before a case flag that
stood before it, and before all of the body unless it is there. -/
theorem anchorStart_cases (body : Text) :
    (∃ rest, body = ignoreCaseFlag ++ '^' :: rest ∧
      anchorStart body = '^' :: (ignoreCaseFlag ++ rest)) ∨
    (∃ rest, body = '^' :: rest ∧ anchorStart body = body) ∨
    anchorStart body = '^' :: body := by
  unfold anchorStart
  cases flagged : (ignoreCaseFlag ++ ['^']).isPrefixOf? body with
  | some rest =>
      rw [List.isPrefixOf?_eq_some_iff_append_eq] at flagged
      exact .inl ⟨rest, by rw [← flagged]; simp, rfl⟩
  | none =>
      dsimp only
      split
      · rename_i anchored
        obtain ⟨rest, same⟩ := List.isPrefixOf_iff_prefix.1 anchored
        exact .inr (.inl ⟨rest, same.symm, rfl⟩)
      · exact .inr (.inr rfl)

/-- Closing a text keeps what stands before its last dollar signs. -/
theorem exists_anchorEnd_append (front : Text) {last : Char} (rest : Text) (solid : last ≠ '$') :
    ∃ more, anchorEnd (front ++ last :: rest) = front ++ last :: more := by
  obtain ⟨core, given, kept, same, closed⟩ := exists_anchorEnd (front ++ last :: rest)
  rw [← List.singleton_append, ← List.append_assoc] at same
  rcases List.append_eq_append_iff.1 same with ⟨more, rfl, -⟩ | ⟨more, reach, dollars⟩
  · exact ⟨more ++ List.replicate kept '$', by rw [closed]; simp⟩
  · rcases List.eq_nil_or_concat more with rfl | ⟨init, final, rfl⟩
    · rw [List.append_nil] at reach
      exact ⟨List.replicate kept '$', by rw [closed, ← reach]; simp⟩
    · rw [List.concat_eq_append, ← List.append_assoc] at reach
      have shared : last = final := by simpa using (List.append_inj' reach rfl).2
      have dollar : final ∈ List.replicate given '$' := by
        rw [dollars]
        simp
      exact absurd (shared.trans (List.eq_of_mem_replicate dollar)) solid

/-- Closing a body keeps what stands before its last dollar signs. -/
theorem exists_finishBody_cons (line : Line) (front : Text) {body rest : Text} {last : Char}
    (started : anchorStart body = front ++ last :: rest) (solid : last ≠ '$') :
    ∃ more, finishBody line body = front ++ last :: more := by
  unfold finishBody
  dsimp only
  rw [started]
  split
  · exact exists_anchorEnd_append front rest solid
  · exact ⟨rest, rfl⟩

theorem exists_finishBody (line : Line) (body : Text) :
    ∃ rest, finishBody line body = '^' :: rest := by
  have front : ∃ rest, anchorStart body = [] ++ '^' :: rest := by
    rcases anchorStart_cases body with ⟨rest, -, same⟩ | ⟨rest, rfl, same⟩ | same
    · exact ⟨_, same⟩
    · exact ⟨_, same⟩
    · exact ⟨_, same⟩
  obtain ⟨rest, front⟩ := front
  exact exists_finishBody_cons line [] front (by decide)

/-! ### Calls -/

theorem hasKeywordCall_cons_of_not_lower {first : Char} (rest : Text)
    (notLower : Text.isLower first = false) (notWord : Text.isWord first = false) :
    hasKeywordCall (first :: rest) = hasKeywordCall rest := by
  have passed := LinePiece.callsKeyword_cons_of_not_lower false rest notLower
  rwa [notWord] at passed

theorem hasKeywordCall_ignoreCaseFlag (rest : Text) :
    hasKeywordCall (ignoreCaseFlag ++ rest) = hasKeywordCall rest := by
  have letter : Call.read? ('i' :: ')' :: rest) = none := by
    simp [Call.read?, Text.isLower, Text.isLowerWord, Text.isDigit]
  change hasKeywordCall ('(' :: '?' :: 'i' :: ')' :: rest) = _
  rw [hasKeywordCall_cons_of_not_lower _ (by decide) (by decide),
    hasKeywordCall_cons_of_not_lower _ (by decide) (by decide)]
  have notWord : Text.isWord ')' = false := by decide
  calc hasKeywordCall ('i' :: ')' :: rest)
      = LinePiece.callsKeyword (Text.isWord 'i') (')' :: rest) :=
        LinePiece.callsKeyword_cons_of_none (.inr letter)
    _ = LinePiece.callsKeyword (Text.isWord ')') rest :=
        LinePiece.callsKeyword_cons_of_not_lower _ rest (by decide)
    _ = hasKeywordCall rest := by rw [notWord]; rfl

theorem hasKeywordCall_flagText (ignoreCase : Bool) (rest : Text) :
    hasKeywordCall (flagText ignoreCase ++ rest) = hasKeywordCall rest := by
  cases ignoreCase with
  | true => exact hasKeywordCall_ignoreCaseFlag rest
  | false => rfl

theorem hasKeywordCall_caret (rest : Text) :
    hasKeywordCall ('^' :: rest) = hasKeywordCall rest :=
  hasKeywordCall_cons_of_not_lower rest (by decide) (by decide)

theorem hasKeywordCall_anchorStart (body : Text) :
    hasKeywordCall (anchorStart body) = hasKeywordCall body := by
  rcases anchorStart_cases body with ⟨rest, rfl, same⟩ | ⟨rest, -, same⟩ | same
  · rw [same, hasKeywordCall_caret, hasKeywordCall_ignoreCaseFlag, hasKeywordCall_ignoreCaseFlag,
      hasKeywordCall_caret]
  · rw [same]
  · rw [same, hasKeywordCall_caret]

theorem hasKeywordCall_append_of_not_mem (text : Text) {more : Text} (open_ : ')' ∉ more) :
    hasKeywordCall (text ++ more) = hasKeywordCall text :=
  LinePiece.callsKeyword_append_of_not_mem false text open_

theorem hasKeywordCall_anchorEnd (body : Text) :
    hasKeywordCall (anchorEnd body) = hasKeywordCall body := by
  obtain ⟨core, given, kept, same, closed⟩ := exists_anchorEnd body
  have open_ : ∀ count, ')' ∉ List.replicate count '$' := fun count member =>
    absurd (List.eq_of_mem_replicate member) (by decide)
  rw [closed, hasKeywordCall_append_of_not_mem core (open_ kept), same,
    hasKeywordCall_append_of_not_mem core (open_ given)]

theorem hasKeywordCall_finishBody (line : Line) (body : Text) :
    hasKeywordCall (finishBody line body) = hasKeywordCall body := by
  unfold finishBody
  dsimp only
  split
  · rw [hasKeywordCall_anchorEnd, hasKeywordCall_anchorStart]
  · exact hasKeywordCall_anchorStart body

/-! ### Inner white space -/

/-- White space between two other characters is inside. -/
theorem hasInnerBlank_of_solid (before after : Text) {blank : Char}
    (isBlank : Text.isBlank blank = true)
    (solidBefore : ∃ c ∈ before, Text.isBlank c = false)
    (solidAfter : ∃ c ∈ after, Text.isBlank c = false) :
    hasInnerBlank (before ++ blank :: after) = true := by
  obtain ⟨last, member, solidLast⟩ := solidAfter
  obtain ⟨middle, ending, rfl⟩ := List.append_of_mem member
  have front : ∃ first rest, Text.trimStart (before ++ blank :: (middle ++ last :: ending)) =
      first :: (rest ++ blank :: (middle ++ last :: ending)) := by
    have stops : before.dropWhile Text.isBlank ≠ [] := by
      intro all
      obtain ⟨c, member, solid⟩ := solidBefore
      rw [List.dropWhile_eq_nil_iff] at all
      simp [all c member] at solid
    obtain ⟨first, rest, same⟩ := List.exists_cons_of_ne_nil stops
    refine ⟨first, rest, ?_⟩
    rw [Text.trimStart, List.dropWhile_append, same]
    rfl
  obtain ⟨first, rest, front⟩ := front
  have kept := Text.trimEnd_append_cons (first :: (rest ++ blank :: middle)) ending solidLast
  have whole : Text.trim (before ++ blank :: (middle ++ last :: ending)) =
      first :: (rest ++ blank :: middle) ++ last :: Text.trimEnd ending := by
    rw [Text.trim, front, ← kept]
    simp
  rw [hasInnerBlank, whole]
  simp [isBlank]

/-- Without inner white space, one side of a white space character is white space. -/
theorem forall_blank_of_not_hasInnerBlank {before after : Text} {blank : Char}
    (isBlank : Text.isBlank blank = true)
    (solid : hasInnerBlank (before ++ blank :: after) = false) :
    (∀ c ∈ before, Text.isBlank c = true) ∨ ∀ c ∈ after, Text.isBlank c = true := by
  by_contra both
  simp only [not_or, not_forall, Bool.not_eq_true, exists_prop] at both
  rw [hasInnerBlank_of_solid before after isBlank both.1 both.2] at solid
  exact absurd solid (by decide)

/-- Without inner white space, a separator stands between white space. -/
theorem forall_blank_of_separator {before after : Text}
    (solid : hasInnerBlank (before ++ Line.separator ++ after) = false) :
    (∀ c ∈ before, Text.isBlank c = true) ∧ ∀ c ∈ after, Text.isBlank c = true := by
  have space : Text.isBlank ' ' = true := by decide
  have hyphen : Text.isBlank '-' = false := by decide
  constructor
  · have atFirst : hasInnerBlank (before ++ ' ' :: ('-' :: '>' :: ' ' :: after)) = false := by
      simpa [Line.separator] using solid
    refine (forall_blank_of_not_hasInnerBlank space atFirst).resolve_right fun all => ?_
    simp [all '-' (by simp)] at hyphen
  · have atLast : hasInnerBlank ((before ++ [' ', '-', '>']) ++ ' ' :: after) = false := by
      simpa [Line.separator] using solid
    refine (forall_blank_of_not_hasInnerBlank space atLast).resolve_left fun all => ?_
    simp [all '-' (by simp)] at hyphen

theorem not_mem_of_infix_separator {content : Text} (solid : hasInnerBlank content = false)
    (occurs : Line.separator <:+: content) : ')' ∉ content := by
  obtain ⟨before, after, rfl⟩ := occurs
  obtain ⟨left, right⟩ := forall_blank_of_separator solid
  have closing : Text.isBlank ')' = false := by decide
  intro member
  simp only [List.mem_append] at member
  rcases member with (inside | inside) | inside
  · simp [left _ inside] at closing
  · exact absurd inside (by decide)
  · simp [right _ inside] at closing

/-! ### Separators -/

section Directive

variable {line : Line}

theorem directiveText_of_nil (absent : line.directive = []) : directiveText line = [] := by
  simp [directiveText, Line.hasDirective, absent]

theorem directiveText_of_ne_nil (present : line.directive ≠ []) :
    directiveText line = Line.separator ++ line.directive := by
  simp [directiveText, Line.hasDirective, present]

theorem directiveText_congr {other : Line} (same : other.directive = line.directive) :
    directiveText other = directiveText line := by
  rw [directiveText, directiveText, Line.hasDirective, Line.hasDirective, same]

end Directive

theorem infix_of_infix_flagText (ignoreCase : Bool) {text : Text}
    (occurs : Line.separator <:+: flagText ignoreCase ++ text) : Line.separator <:+: text := by
  cases ignoreCase with
  | false => exact occurs
  | true =>
      have strip : ∀ {first : Char} {rest : Text}, first ∉ Line.separator →
          Line.separator <:+: first :: rest → Line.separator <:+: rest :=
        fun disjoint => Text.infix_of_infix_cons disjoint Line.separator_ne_nil
      exact strip (by decide) (strip (by decide) (strip (by decide) (strip (by decide) occurs)))

theorem infix_of_infix_finishBody (line : Line) {body : Text}
    (occurs : Line.separator <:+: finishBody line body) : Line.separator <:+: body := by
  have disjoint : ∀ count, ∀ c ∈ Line.separator, c ∉ List.replicate count '$' := by
    intro count c member dollar
    rw [List.eq_of_mem_replicate dollar] at member
    exact absurd member (by decide)
  have started : Line.separator <:+: anchorStart body := by
    unfold finishBody at occurs
    dsimp only at occurs
    split at occurs
    · obtain ⟨core, given, kept, same, closed⟩ := exists_anchorEnd (anchorStart body)
      rw [closed] at occurs
      rw [same]
      exact (Text.infix_of_infix_append (disjoint kept) Line.separator_ne_nil occurs).trans
        (List.prefix_append _ _).isInfix
    · exact occurs
  rcases anchorStart_cases body with ⟨rest, rfl, same⟩ | ⟨rest, -, same⟩ | same
  · rw [same] at started
    have behind := Text.infix_of_infix_cons (by decide) Line.separator_ne_nil started
    have inner := infix_of_infix_flagText true behind
    exact inner.trans ((List.suffix_cons '^' rest).trans (List.suffix_append _ _)).isInfix
  · rwa [same] at started
  · rw [same] at started
    exact Text.infix_of_infix_cons (by decide) Line.separator_ne_nil started

/-- Behind the anchor of a finished body stands no separator that the body has not. -/
theorem not_infix_of_finishBody {line : Line} {body rest : Text}
    (anchored : finishBody line body = '^' :: rest) (plain : ¬Line.separator <:+: body) :
    ¬Line.separator <:+: rest := by
  intro occurs
  apply plain
  apply infix_of_infix_finishBody line
  rw [anchored]
  exact occurs.trans (List.suffix_cons '^' rest).isInfix

/-! ### Finished rules, taken apart -/

/-- The content of a finished rule is its body up to a separator. -/
theorem exists_content_finish (line : Line) (body : Text) :
    ∃ rest, finishBody line body = '^' :: rest ∧
      finish line body = Line.ruleStart ++ (rest ++ directiveText line) ∧
      (Line.parse (finish line body)).content =
        Line.ruleStart ++ (Line.splitDirective (rest ++ directiveText line)).1 := by
  obtain ⟨rest, same⟩ := exists_finishBody line body
  have whole : finish line body = Line.ruleStart ++ (rest ++ directiveText line) := by
    rw [finish, same]
    simp [Line.indentation, Line.ruleStart]
  exact ⟨rest, same, whole, by rw [whole, Line.parse_ruleStart]⟩

theorem hasKeywordCall_ruleStart (rest : Text) :
    hasKeywordCall (Line.ruleStart ++ rest) = hasKeywordCall ('^' :: rest) := by
  change hasKeywordCall (' ' :: ' ' :: '^' :: rest) = _
  rw [hasKeywordCall_cons_of_not_lower _ (by decide) (by decide),
    hasKeywordCall_cons_of_not_lower _ (by decide) (by decide)]

theorem hasKeywordCall_trimEnd (front rest : Text) :
    hasKeywordCall (front ++ Text.trimEnd rest) = hasKeywordCall (front ++ rest) := by
  obtain ⟨blanks, same, blank⟩ := Text.exists_blanks_trimEnd rest
  have open_ : ')' ∉ blanks := fun member => absurd (blank _ member) (by decide)
  conv_rhs => rw [same, ← List.append_assoc]
  rw [hasKeywordCall_append_of_not_mem _ open_]

/-- A finished rule has the calls of its body, if it is taken apart where it was
put together. -/
theorem hasKeywordCall_content_finish {line : Line} {body : Text}
    (single : ¬Line.separator <:+: line.directive)
    (whole : line.directive = [] → ¬Line.separator <:+: body) :
    hasKeywordCall (Line.parse (finish line body)).content = hasKeywordCall body := by
  obtain ⟨rest, same, -, content⟩ := exists_content_finish line body
  have kept : hasKeywordCall (Line.ruleStart ++ rest) = hasKeywordCall body := by
    rw [hasKeywordCall_ruleStart, ← same, hasKeywordCall_finishBody]
  rw [content, ← kept]
  by_cases absent : line.directive = []
  · have unseparated : ¬Line.separator <:+: rest :=
      not_infix_of_finishBody same (whole absent)
    rw [directiveText_of_nil absent, List.append_nil,
      Line.splitDirective_of_unseparated unseparated]
  · rw [directiveText_of_ne_nil absent, Line.splitDirective_append_separator rest single]
    split
    · rw [← List.append_assoc, hasKeywordCall_append_of_not_mem _ (by decide)]
    · exact hasKeywordCall_trimEnd _ _

/-- A finished rule has no calls that its body has not. -/
theorem hasKeywordCall_content_finish_of_not {line : Line} {body : Text}
    (single : ¬Line.separator <:+: line.directive) (quiet : hasKeywordCall body = false) :
    hasKeywordCall (Line.parse (finish line body)).content = false := by
  by_cases absent : line.directive = []
  · obtain ⟨rest, same, -, content⟩ := exists_content_finish line body
    obtain ⟨more, longer⟩ := Line.splitDirective_begins rest
    rw [content, directiveText_of_nil absent, List.append_nil]
    by_contra calls
    rw [Bool.not_eq_false] at calls
    have still := LinePiece.callsKeyword_append false more calls
    rw [List.append_assoc, longer] at still
    have kept : hasKeywordCall (Line.ruleStart ++ rest) = hasKeywordCall body := by
      rw [hasKeywordCall_ruleStart, ← same, hasKeywordCall_finishBody]
    rw [quiet] at kept
    exact absurd (kept.symm.trans still) (by decide)
  · rw [hasKeywordCall_content_finish single fun none => absurd none absent, quiet]

end Statement

end LineTemplate
