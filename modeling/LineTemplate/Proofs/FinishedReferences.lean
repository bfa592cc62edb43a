import LineTemplate.Proofs.Finishing
import LineTemplate.Proofs.References

/-!
Contract: finished bodies, with groups in the place of their references.

Owns:
- which anchor a closed body ends with;
- that groups are put into a finished body as into the body that was finished.

Does not own: whether the result is a regular expression.
-/

namespace LineTemplate

/-! ### Anchors at the end -/

namespace Literal

theorem anchorLeads_append (reversed : Text) {last : Char} (more : Text) (solid : last ≠ '$')
    (plain : last ≠ '\\') : anchorLeads (reversed ++ last :: more) = anchorLeads reversed := by
  cases reversed with
  | nil => simp [anchorLeads, solid]
  | cons first before =>
      by_cases dollar : first = '$'
      · subst dollar
        have escapes : (before ++ last :: more).takeWhile (· = '\\') =
            before.takeWhile (· = '\\') := by
          rw [List.takeWhile_append]
          split
          · rename_i whole
            rw [List.takeWhile_cons_of_neg (by simpa using plain), List.append_nil,
              (List.takeWhile_prefix _).eq_of_length whole]
          · rfl
        rw [List.cons_append, anchorLeads, escapes, anchorLeads]
      · simp [anchorLeads, dollar]

/-- Whether a text ends with an anchor is seen behind any other character but a
backslash. -/
theorem endsWithAnchor_append (front : Text) {last : Char} (rest : Text) (solid : last ≠ '$')
    (plain : last ≠ '\\') : endsWithAnchor (front ++ last :: rest) = endsWithAnchor rest := by
  have reversed : (front ++ last :: rest).reverse = rest.reverse ++ last :: front.reverse := by
    simp
  rw [endsWithAnchor, reversed, anchorLeads_append _ _ solid plain, endsWithAnchor]

end Literal

namespace Statement

theorem exists_dropSurplusAnchors_of_anchorLeads {reversed : Text}
    (leads : Literal.anchorLeads reversed = true) :
    ∃ count core, reversed = List.replicate count '$' ++ '$' :: core ∧
      dropSurplusAnchors reversed = '$' :: core ∧ Literal.anchorLeads ('$' :: core) = true := by
  induction reversed with
  | nil => cases leads
  | cons first before inductionHypothesis =>
      have dollar : first = '$' := by
        by_contra other
        simp [Literal.anchorLeads, other] at leads
      subst dollar
      by_cases surplus : Literal.anchorLeads before = true
      · obtain ⟨count, core, same, dropped, single⟩ := inductionHypothesis surplus
        refine ⟨count + 1, core, ?_, ?_, single⟩
        · rw [List.replicate_succ, List.cons_append, ← same]
        · rw [dropSurplusAnchors, if_pos surplus, dropped]
      · refine ⟨0, before, rfl, ?_, leads⟩
        rw [dropSurplusAnchors, if_neg surplus]

theorem dropSurplusAnchors_of_not_anchorLeads {reversed : Text}
    (escaped : Literal.anchorLeads reversed = false) : dropSurplusAnchors reversed = reversed := by
  unfold dropSurplusAnchors
  split
  · rename_i before
    refine if_neg fun surplus => ?_
    -- Two dollar signs in a row are never escaped.
    cases before with
    | nil => cases surplus
    | cons first before =>
        have dollar : first = '$' := by
          by_contra other
          simp [Literal.anchorLeads, other] at surplus
        subst dollar
        simp [Literal.anchorLeads] at escaped
  · rfl

/-- A body is closed by leaving out all but one of its last anchors, or by an anchor
where it has none. -/
theorem anchorEnd_cases (body : Text) :
    (Literal.endsWithAnchor body = true ∧ ∃ core count,
      body = core ++ '$' :: List.replicate count '$' ∧ anchorEnd body = core ++ ['$']) ∨
    (Literal.endsWithAnchor body = false ∧ anchorEnd body = body ++ ['$']) := by
  cases leads : Literal.endsWithAnchor body with
  | true =>
      obtain ⟨count, core, same, dropped, single⟩ := exists_dropSurplusAnchors_of_anchorLeads leads
      refine .inl ⟨rfl, core.reverse, count, ?_, ?_⟩
      · have turned := congrArg List.reverse same
        rw [List.reverse_reverse] at turned
        rw [turned]
        simp [← List.replicate_succ]
      · simp [anchorEnd, closeReversed, dropped, single]
  | false =>
      have kept := dropSurplusAnchors_of_not_anchorLeads leads
      refine .inr ⟨rfl, ?_⟩
      have unled : Literal.anchorLeads body.reverse = false := leads
      simp [anchorEnd, closeReversed, kept, unled]

theorem endsWithAnchor_flagText (ignoreCase : Bool) (content : Text) :
    Literal.endsWithAnchor (flagText ignoreCase ++ content) =
      Literal.endsWithAnchor content := by
  cases ignoreCase with
  | false => rfl
  | true =>
      have solid : ')' ≠ '$' := by decide
      exact Literal.endsWithAnchor_append ['(', '?', 'i'] content solid (by decide)

/-! ### Anchors in front -/

theorem anchorStart_flag (rest : Text) :
    anchorStart (ignoreCaseFlag ++ '^' :: rest) = '^' :: (ignoreCaseFlag ++ rest) := rfl

theorem anchorStart_lineStart (rest : Text) : anchorStart ('^' :: rest) = '^' :: rest := rfl

/-- The body begins with an anchor, or with one behind a case flag. -/
def BeginsAnchored (body : Text) : Prop :=
  ignoreCaseFlag ++ ['^'] <+: body ∨ ['^'] <+: body

theorem anchorStart_of_not_beginsAnchored {body : Text} (unanchored : ¬BeginsAnchored body) :
    anchorStart body = '^' :: body := by
  rcases anchorStart_cases body with ⟨rest, rfl, -⟩ | ⟨rest, rfl, -⟩ | same
  · exact absurd (.inl ⟨rest, by simp⟩) unanchored
  · exact absurd (.inr ⟨rest, rfl⟩) unanchored
  · exact same

theorem exists_of_beginsAnchored {body : Text} (anchored : BeginsAnchored body) :
    (∃ rest, body = ignoreCaseFlag ++ '^' :: rest) ∨ ∃ rest, body = '^' :: rest := by
  rcases anchored with ⟨rest, rfl⟩ | ⟨rest, rfl⟩
  · exact .inl ⟨rest, by simp⟩
  · exact .inr ⟨rest, rfl⟩

theorem beginsAnchored_of_append_dollar {body : Text} (anchored : BeginsAnchored (body ++ ['$'])) :
    BeginsAnchored body := by
  rcases anchored with whole | whole
  · rcases List.prefix_concat_iff.1 whole with same | shorter
    · have member : '$' ∈ ignoreCaseFlag ++ ['^'] := by
        rw [same]
        simp
      exact absurd member (by decide)
    · exact .inl shorter
  · rcases List.prefix_concat_iff.1 whole with same | shorter
    · have member : '$' ∈ ['^'] := by
        rw [same]
        simp
      exact absurd member (by decide)
    · exact .inr shorter

theorem anchorStart_append_dollar (body : Text) :
    anchorStart (body ++ ['$']) = anchorStart body ++ ['$'] := by
  by_cases anchored : BeginsAnchored body
  · rcases exists_of_beginsAnchored anchored with ⟨rest, rfl⟩ | ⟨rest, rfl⟩
    · rw [List.append_assoc, List.cons_append, anchorStart_flag, anchorStart_flag,
        List.cons_append, List.append_assoc]
    · rfl
  · rw [anchorStart_of_not_beginsAnchored anchored,
      anchorStart_of_not_beginsAnchored fun longer =>
        anchored (beginsAnchored_of_append_dollar longer), List.cons_append]

/-- Putting the anchor in front does not change whether there is one at the end. -/
theorem endsWithAnchor_anchorStart (body : Text) :
    Literal.endsWithAnchor (anchorStart body) = Literal.endsWithAnchor body := by
  have caret : ∀ front rest, Literal.endsWithAnchor (front ++ '^' :: rest) =
      Literal.endsWithAnchor rest := fun front rest =>
    Literal.endsWithAnchor_append front rest (by decide) (by decide)
  rcases anchorStart_cases body with ⟨rest, rfl, same⟩ | ⟨rest, -, same⟩ | same
  · rw [same, caret]
    exact (caret [] _).trans (endsWithAnchor_flagText true rest)
  · rw [same]
  · rw [same]
    exact caret [] body

end Statement

/-! ### References -/

theorem RulePiece.readReference?_of_unopened {text : Text}
    (unopened : ¬['$', '\x7b'] <+: text) : readReference? text = none := by
  unfold readReference?
  split
  · rename_i inside
    exact absurd ⟨inside, rfl⟩ unopened
  · rfl

theorem RulePiece.readReference?_of_unclosed {inside : Text} (unclosed : '\x7d' ∉ inside) :
    readReference? ('$' :: '\x7b' :: inside) = none := by
  have whole : inside.dropWhile (fun c => c != '\x7d') = [] := by
    rw [List.dropWhile_eq_nil_iff]
    intro c member
    rw [bne_iff_ne]
    rintro rfl
    exact unclosed member
  simp [readReference?, whole]

/-- A dollar sign at the end belongs to no reference. -/
theorem RulePiece.readReference?_append_dollar (text : Text) :
    readReference? (text ++ ['$']) =
      (readReference? text).map fun (name, after) => (name, after ++ ['$']) := by
  by_cases opens : ['$', '\x7b'] <+: text
  · obtain ⟨inside, rfl⟩ := opens
    change readReference? ('$' :: '\x7b' :: (inside ++ ['$'])) =
      (readReference? ('$' :: '\x7b' :: inside)).map _
    by_cases closed : '\x7d' ∈ inside
    · obtain ⟨name, after, rfl, proper⟩ := List.eq_append_cons_of_mem closed
      rw [List.append_assoc, List.cons_append, readReference?_of_closed proper,
        readReference?_of_closed proper]
      rfl
    · rw [readReference?_of_unclosed closed, readReference?_of_unclosed (by simpa using closed)]
      rfl
  · have unopened : ¬['$', '\x7b'] <+: text ++ ['$'] := by
      intro longer
      rcases List.prefix_concat_iff.1 longer with same | shorter
      · have last := congrArg List.getLast? same
        simp at last
      · exact opens shorter
    rw [readReference?_of_unopened opens, readReference?_of_unopened unopened]
    rfl

/-- A reference that was read is what it was written as. -/
theorem RulePiece.eq_of_readReference? {text name after : Text}
    (read : readReference? text = some (name, after)) :
    text = (RulePiece.reference name).text ++ after := by
  unfold readReference? at read
  split at read
  · rename_i inside
    split at read
    · rename_i rest closed
      cases read
      have whole := List.takeWhile_append_dropWhile (p := fun c => c != '\x7d') (l := inside)
      rw [closed] at whole
      conv_lhs => rw [← whole]
      simp [RulePiece.text]
    · cases read
  · cases read

theorem fillReferences_cons {first : Char} (value : Text → Option Text) (rest : Text)
    (solid : first ≠ '$') :
    fillReferences value (first :: rest) = first :: fillReferences value rest :=
  fillReferences_cons_of_none value (by simp [RulePiece.readReference?, solid])

theorem fillReferences_append_dollar (value : Text → Option Text) (text : Text) :
    fillReferences value (text ++ ['$']) = fillReferences value text ++ ['$'] := by
  induction text using RulePiece.ofText.induct with
  | case1 =>
      rw [List.nil_append, fillReferences_cons_of_none value rfl, fillReferences_nil]
      rfl
  | case2 first rest name after read inductionHypothesis =>
      have longer := RulePiece.readReference?_append_dollar (first :: rest)
      rw [read] at longer
      rw [fillReferences_of_readReference? value longer, fillReferences_of_readReference? value read,
        inductionHypothesis, List.append_assoc]
  | case3 first rest unread inductionHypothesis =>
      have longer := RulePiece.readReference?_append_dollar (first :: rest)
      rw [unread, List.cons_append] at longer
      rw [fillReferences_cons_of_none value unread, List.cons_append,
        fillReferences_cons_of_none value longer, inductionHypothesis, List.cons_append]

/-- Where no name stands for anything, a text stays as it is. -/
theorem fillReferences_none (text : Text) : fillReferences (fun _ => none) text = text := by
  induction text using RulePiece.ofText.induct with
  | case1 => exact fillReferences_nil _
  | case2 first rest name after read inductionHypothesis =>
      rw [fillReferences_of_readReference? _ read, inductionHypothesis,
        RulePiece.eq_of_readReference? read]
      rfl
  | case3 first rest unread inductionHypothesis =>
      rw [fillReferences_cons_of_none _ unread, inductionHypothesis]

theorem withGroups_nil (text : Text) : withGroups [] text = text := fillReferences_none text

section Bodies

variable (captured : List Variable)

theorem withGroups_cons {first : Char} (rest : Text) (solid : first ≠ '$') :
    withGroups captured (first :: rest) = first :: withGroups captured rest :=
  fillReferences_cons _ rest solid

theorem withGroups_flagText (ignoreCase : Bool) (rest : Text) :
    withGroups captured (flagText ignoreCase ++ rest) =
      flagText ignoreCase ++ withGroups captured rest := by
  cases ignoreCase with
  | false => rfl
  | true =>
      change withGroups captured ('(' :: '?' :: 'i' :: ')' :: rest) = _
      rw [withGroups_cons captured _ (by decide), withGroups_cons captured _ (by decide),
        withGroups_cons captured _ (by decide), withGroups_cons captured _ (by decide)]
      rfl

theorem withGroups_append_dollars (text : Text) (count : Nat) :
    withGroups captured (text ++ List.replicate count '$') =
      withGroups captured text ++ List.replicate count '$' := by
  induction count with
  | zero => simp
  | succ count inductionHypothesis =>
      rw [List.replicate_succ', ← List.append_assoc, ← List.append_assoc, ← inductionHypothesis]
      exact fillReferences_append_dollar _ _

/-- Putting the anchor in front of a body puts it in front of the groups, too. -/
theorem withGroups_anchorStart_cases (body : Text) :
    (∃ rest, withGroups captured body = ignoreCaseFlag ++ '^' :: rest ∧
      withGroups captured (Statement.anchorStart body) = '^' :: (ignoreCaseFlag ++ rest)) ∨
    withGroups captured (Statement.anchorStart body) = withGroups captured body ∨
    withGroups captured (Statement.anchorStart body) = '^' :: withGroups captured body := by
  have flag : ∀ rest, withGroups captured (ignoreCaseFlag ++ rest) =
      ignoreCaseFlag ++ withGroups captured rest := withGroups_flagText captured true
  rcases Statement.anchorStart_cases body with ⟨rest, rfl, same⟩ | ⟨rest, -, same⟩ | same
  · refine .inl ⟨withGroups captured rest, ?_, ?_⟩
    · rw [flag, withGroups_cons captured _ (by decide)]
    · rw [same, withGroups_cons captured _ (by decide), flag]
  · exact .inr (.inl (by rw [same]))
  · exact .inr (.inr (by rw [same, withGroups_cons captured _ (by decide)]))

end Bodies

end LineTemplate
