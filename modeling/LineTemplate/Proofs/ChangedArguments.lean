import LineTemplate.Proofs.FinishedReferences
import LineTemplate.Proofs.LineBreaks

/-!
Contract: texts that differ in the arguments of calls.

Owns:
- `ChangesArguments`, a text and the same one with other arguments for some of its calls;
- that both are read alike, and what they share at either end;
- that the white space and the anchor at their end are the same.

Does not own: which arguments may be exchanged, and the expansion of either text.
-/

namespace LineTemplate

/-- A piece of a text, and what it becomes where calls are given other arguments, as far as
these are `allowed`. -/
inductive LinePiece.Changed (allowed : Call → Text → Prop) : LinePiece → LinePiece → Prop
  | same (piece : LinePiece) : Changed allowed piece piece
  | call {written : Call} {arguments : Text}
      (flat : ∀ c ∈ arguments, (c != '(' && c != ')') = true)
      (change : allowed written arguments) :
      Changed allowed (.call written) (.call ⟨written.name, arguments⟩)

/-- The second text is the first with other arguments for some of its calls. -/
def ChangesArguments (allowed : Call → Text → Prop) (text other : Text) : Prop :=
  ∃ pieces, List.Forall₂ (LinePiece.Changed allowed) (LinePiece.ofText text) pieces ∧
    other = pieces.flatMap LinePiece.text

variable {allowed : Call → Text → Prop}

/-! ### Reading -/

namespace Call

/-- Where no call is read, none is read with something else in the place of flat arguments. -/
theorem read?_of_other_arguments {opening old new rest more : Text}
    (flat : ∀ c ∈ old, (c != '(' && c != ')') = true)
    (uncalled : read? (opening ++ '(' :: (old ++ ')' :: rest)) = none) :
    read? (opening ++ '(' :: (new ++ ')' :: more)) = none := by
  by_contra read
  obtain ⟨⟨written, after⟩, found⟩ := Option.ne_none_iff_exists'.1 read
  obtain ⟨formed, same⟩ := read?_eq_some_iff.1 found
  rw [List.append_cons] at same
  rcases List.append_eq_append_iff.1 same with ⟨inside, reaches, -⟩ | ⟨inside, ends, -⟩
  · -- The call has the parenthesis of the changed arguments, so its name is before them.
    have unnamed : '(' ∉ written.name := fun member => absurd (formed.word _ member) (by decide)
    have closed : '(' ∉ written.arguments ++ [')'] := by
      intro member
      rcases List.mem_append.1 member with argued | last
      · exact absurd (formed.flat _ argued) (by decide)
      · exact absurd last (by decide)
    rw [text, List.append_assoc, List.singleton_append] at reaches
    obtain ⟨name, -, -⟩ := (List.append_cons_inj_of_notMem unnamed closed).1 reaches
    have otherFormed : (⟨opening, old⟩ : Call).IsFormed :=
      ⟨name ▸ formed.begins, name ▸ formed.word, flat⟩
    have called := read?_of_isFormed otherFormed rest
    simp only [text, List.append_assoc, List.cons_append, List.nil_append] at called
    rw [uncalled] at called
    cases called
  · have called := read?_of_isFormed formed (inside ++ (old ++ ')' :: rest))
    rw [← List.append_assoc, ← ends, List.append_assoc, List.singleton_append, uncalled] at called
    cases called

end Call

namespace LinePiece

theorem isFormed_of_mem_read {afterWord : Bool} {text : Text} {written : Call}
    (member : .call written ∈ read afterWord text) : written.IsFormed := by
  fun_induction read afterWord text with
  | case1 => cases member
  | case2 first rest inductionHypothesis =>
      exact inductionHypothesis (by simpa using member)
  | case3 afterWord first rest notAfter called after found inductionHypothesis =>
      rcases List.mem_cons.1 member with same | later
      · cases same
        exact Call.isFormed_of_read? found
      · exact inductionHypothesis later
  | case4 afterWord first rest _ uncalled inductionHypothesis =>
      exact inductionHypothesis (by simpa using member)

/-- Up to the arguments of the first changed call, two texts are the same. -/
theorem opening_of_changed {pieces others : List LinePiece}
    (changed : List.Forall₂ (Changed allowed) pieces others)
    (formed : ∀ written, .call written ∈ pieces → written.IsFormed) :
    pieces.flatMap text = others.flatMap text ∨
      ∃ opening old new rest more,
        (∀ c ∈ old, (c != '(' && c != ')') = true) ∧
        pieces.flatMap text = opening ++ '(' :: (old ++ ')' :: rest) ∧
        others.flatMap text = opening ++ '(' :: (new ++ ')' :: more) := by
  induction changed with
  | nil => exact .inl rfl
  | @cons piece other pieces others first later inductionHypothesis =>
      cases first with
      | same =>
          rw [List.flatMap_cons, List.flatMap_cons]
          rcases inductionHypothesis fun written member => formed written (by simp [member]) with
            same | ⟨opening, old, new, rest, more, flat, front, back⟩
          · exact .inl (by rw [same])
          · refine .inr ⟨piece.text ++ opening, old, new, rest, more, flat, ?_, ?_⟩
            · rw [front, List.append_assoc]
            · rw [back, List.append_assoc]
      | @call written arguments _ _ =>
          refine .inr ⟨written.name, written.arguments, arguments, pieces.flatMap text,
            others.flatMap text, (formed written (by simp)).flat, ?_, ?_⟩
          · simp [text, Call.text]
          · simp [text, Call.text]

/-- Behind the arguments of the last changed call, two texts are the same. -/
theorem ending_of_changed {pieces others : List LinePiece}
    (changed : List.Forall₂ (Changed allowed) pieces others) :
    pieces.flatMap text = others.flatMap text ∨
      ∃ front back ending, pieces.flatMap text = front ++ ')' :: ending ∧
        others.flatMap text = back ++ ')' :: ending := by
  induction changed with
  | nil => exact .inl rfl
  | @cons piece other pieces others first later inductionHypothesis =>
      rw [List.flatMap_cons, List.flatMap_cons]
      rcases inductionHypothesis with same | ⟨front, back, ending, ends, otherEnds⟩
      · cases first with
        | same => exact .inl (by rw [same])
        | @call written arguments _ _ =>
            refine .inr ⟨written.name ++ '(' :: written.arguments, written.name ++ '(' :: arguments,
              pieces.flatMap text, ?_, ?_⟩
            · simp [text, Call.text]
            · simp [text, Call.text, same]
      · refine .inr ⟨piece.text ++ front, other.text ++ back, ending, ?_, ?_⟩
        · rw [ends, List.append_assoc]
        · rw [otherEnds, List.append_assoc]

/-- Where no call is read, none is read with other arguments further on. -/
theorem read?_of_changed {afterWord : Bool} {first : Char} {rest : Text}
    {pieces : List LinePiece} (uncalled : Call.read? (first :: rest) = none)
    (changed : List.Forall₂ (Changed allowed) (read afterWord rest) pieces) :
    Call.read? (first :: pieces.flatMap text) = none := by
  rcases opening_of_changed changed fun written => isFormed_of_mem_read with
    same | ⟨opening, old, new, behind, more, flat, front, back⟩
  · rwa [← same, flatMap_text_read]
  · rw [flatMap_text_read] at front
    rw [front, ← List.cons_append] at uncalled
    rw [back, ← List.cons_append]
    exact Call.read?_of_other_arguments flat uncalled

/-- Characters behind pieces stay what they are. -/
theorem exists_changed_of_append_chars {pieces others : List LinePiece} {chars : Text}
    (changed : List.Forall₂ (Changed allowed) (pieces ++ chars.map .char) others) :
    ∃ kept, List.Forall₂ (Changed allowed) pieces kept ∧ others = kept ++ chars.map .char := by
  induction pieces generalizing others with
  | nil =>
      refine ⟨[], .nil, ?_⟩
      rw [List.nil_append] at changed ⊢
      induction chars generalizing others with
      | nil =>
          cases changed
          rfl
      | cons c chars inductionHypothesis =>
          obtain ⟨other, rest, head, later, rfl⟩ := List.forall₂_cons_left_iff.1 changed
          cases head
          rw [List.map_cons, inductionHypothesis later]
  | cons piece pieces inductionHypothesis =>
      obtain ⟨other, rest, head, later, rfl⟩ := List.forall₂_cons_left_iff.1 changed
      obtain ⟨kept, changedKept, rfl⟩ := inductionHypothesis later
      exact ⟨other :: kept, .cons head changedKept, rfl⟩

/-- With other arguments for its calls, a text is read as the pieces that it is put together
of. -/
theorem read_of_changed {afterWord : Bool} {text : Text} {pieces : List LinePiece}
    (changed : List.Forall₂ (Changed allowed) (read afterWord text) pieces) :
    read afterWord (pieces.flatMap LinePiece.text) = pieces := by
  fun_induction read afterWord text generalizing pieces with
  | case1 =>
      cases changed
      exact read_nil _
  | case2 first rest inductionHypothesis =>
      obtain ⟨other, others, head, later, rfl⟩ := List.forall₂_cons_left_iff.1 changed
      cases head
      rw [List.flatMap_cons]
      exact (read_cons_of_none (.inl rfl)).trans (congrArg _ (inductionHypothesis later))
  | case3 afterWord first rest notAfter written after found inductionHypothesis =>
      obtain ⟨other, others, head, later, rfl⟩ := List.forall₂_cons_left_iff.1 changed
      rw [(Bool.not_eq_true _).mp notAfter, List.flatMap_cons]
      have formed := Call.isFormed_of_read? found
      cases head with
      | same =>
          exact (read_of_call (Call.read?_of_isFormed formed _)).trans
            (congrArg _ (inductionHypothesis later))
      | @call _ arguments flat _ =>
          have stillFormed : (⟨written.name, arguments⟩ : Call).IsFormed :=
            ⟨formed.begins, formed.word, flat⟩
          exact (read_of_call (Call.read?_of_isFormed stillFormed _)).trans
            (congrArg _ (inductionHypothesis later))
  | case4 afterWord first rest _ uncalled inductionHypothesis =>
      obtain ⟨other, others, head, later, rfl⟩ := List.forall₂_cons_left_iff.1 changed
      cases head
      rw [List.flatMap_cons]
      exact (read_cons_of_none (.inr (read?_of_changed uncalled later))).trans
        (congrArg _ (inductionHypothesis later))

end LinePiece

/-! ### The end of a text -/

namespace Literal

/-- Nothing is dropped before a character that is neither white space nor a dollar sign nor a
backslash. -/
theorem withoutAnchor_append_cons (front : Text) {last : Char} (rest : Text)
    (solid : Text.isBlank last = false) (noDollar : last ≠ '$') (plain : last ≠ '\\') :
    withoutAnchor (front ++ last :: rest) = front ++ last :: withoutAnchor rest := by
  simp only [withoutAnchor]
  rw [Text.trimEnd_append_cons front rest solid, endsWithAnchor_append front _ noDollar plain]
  cases anchored : endsWithAnchor (Text.trimEnd rest) with
  | false => rfl
  | true =>
      have filled : Text.trimEnd rest ≠ [] := by
        intro nothing
        rw [nothing] at anchored
        cases anchored
      have dropped : (front ++ last :: Text.trimEnd rest).dropLast =
          front ++ last :: (Text.trimEnd rest).dropLast := by
        rw [List.dropLast_append_of_ne_nil (by simp), List.dropLast_cons_of_ne_nil filled]
      rw [if_pos rfl, if_pos rfl, dropped, Text.trimEnd_append_cons front _ solid]

/-- What is dropped at the end of a content closes no call. -/
theorem exists_withoutAnchor_append (content : Text) :
    ∃ dropped, content = withoutAnchor content ++ dropped ∧ ')' ∉ dropped := by
  obtain ⟨dropped, whole⟩ := withoutAnchor_begins content
  refine ⟨dropped, whole.symm, fun member => ?_⟩
  obtain ⟨before, after, rfl⟩ := List.append_of_mem member
  have kept := withoutAnchor_append_cons (withoutAnchor content ++ before) after
    (by decide : Text.isBlank ')' = false) (by decide) (by decide)
  rw [List.append_assoc, whole] at kept
  have longer := congrArg List.length kept
  simp only [List.length_append, List.length_cons] at longer
  omega

end Literal

namespace ChangesArguments

variable {text other : Text}

theorem mono {weaker : Call → Text → Prop} (changes : ChangesArguments allowed text other)
    (weaken : ∀ written arguments, allowed written arguments → weaker written arguments) :
    ChangesArguments weaker text other := by
  obtain ⟨pieces, changed, same⟩ := changes
  refine ⟨pieces, changed.imp fun piece next step => ?_, same⟩
  cases step with
  | same => exact .same _
  | call flat change => exact .call flat (weaken _ _ change)

/-- The calls of both texts, in their order, differ in their arguments alone. -/
theorem forall₂_ofText (changes : ChangesArguments allowed text other) :
    List.Forall₂ (LinePiece.Changed allowed) (LinePiece.ofText text) (LinePiece.ofText other) := by
  obtain ⟨pieces, changed, rfl⟩ := changes
  rwa [LinePiece.ofText, LinePiece.ofText, LinePiece.read_of_changed changed]

theorem opening (changes : ChangesArguments allowed text other) :
    text = other ∨ ∃ opening rest more,
      text = opening ++ '(' :: rest ∧ other = opening ++ '(' :: more := by
  obtain ⟨pieces, changed, rfl⟩ := changes
  rcases LinePiece.opening_of_changed changed fun written => LinePiece.isFormed_of_mem_read with
    same | ⟨opening, old, new, rest, more, -, front, back⟩
  · exact .inl (by rw [← same, LinePiece.ofText, LinePiece.flatMap_text_read])
  · rw [LinePiece.ofText, LinePiece.flatMap_text_read] at front
    exact .inr ⟨opening, _, _, front, back⟩

theorem ending (changes : ChangesArguments allowed text other) :
    text = other ∨ ∃ front back ending,
      text = front ++ ')' :: ending ∧ other = back ++ ')' :: ending := by
  obtain ⟨pieces, changed, rfl⟩ := changes
  rcases LinePiece.ending_of_changed changed with same | ⟨front, back, ending, ends, otherEnds⟩
  · exact .inl (by rw [← same, LinePiece.ofText, LinePiece.flatMap_text_read])
  · rw [LinePiece.ofText, LinePiece.flatMap_text_read] at ends
    exact .inr ⟨front, back, ending, ends, otherEnds⟩

theorem endsWithAnchor_eq (changes : ChangesArguments allowed text other) :
    Literal.endsWithAnchor other = Literal.endsWithAnchor text := by
  rcases changes.ending with rfl | ⟨front, back, ending, rfl, rfl⟩
  · rfl
  · rw [Literal.endsWithAnchor_append _ _ (by decide) (by decide),
      Literal.endsWithAnchor_append _ _ (by decide) (by decide)]

/-- White space at the end is the same in both texts. -/
theorem trimEnd_append (changes : ChangesArguments allowed text other) {front more : Text}
    (trimmed : Text.trimEnd (front ++ text ++ more) = front ++ text) :
    Text.trimEnd (front ++ other ++ more) = front ++ other := by
  have solid : Text.isBlank ')' = false := by decide
  rcases changes.ending with rfl | ⟨first, second, ending, rfl, rfl⟩
  · exact trimmed
  · rw [← List.append_assoc, List.append_assoc _ (')' :: ending), List.cons_append,
      Text.trimEnd_append_cons _ _ solid] at trimmed ⊢
    rw [List.append_cancel_left trimmed]

/-- What is expanded of both texts differs in the arguments of the same calls, and what is
dropped behind it is the same. -/
theorem exists_withoutAnchor_append (changes : ChangesArguments allowed text other) :
    ∃ dropped, text = Literal.withoutAnchor text ++ dropped ∧
      other = Literal.withoutAnchor other ++ dropped ∧
      ChangesArguments allowed (Literal.withoutAnchor text) (Literal.withoutAnchor other) := by
  obtain ⟨dropped, whole, open_⟩ := Literal.exists_withoutAnchor_append text
  obtain ⟨pieces, changed, rfl⟩ := changes
  have read : LinePiece.ofText text =
      LinePiece.ofText (Literal.withoutAnchor text) ++ dropped.map .char := by
    conv_lhs => rw [whole]
    exact LinePiece.read_append_of_not_mem false _ open_
  rw [read] at changed
  obtain ⟨kept, changedKept, rfl⟩ := LinePiece.exists_changed_of_append_chars changed
  have characters : (dropped.map LinePiece.char).flatMap LinePiece.text = dropped := by
    rw [List.flatMap_map]
    exact List.flatMap_singleton' dropped
  rw [List.flatMap_append, characters]
  have shorter : ChangesArguments allowed (Literal.withoutAnchor text)
      (kept.flatMap LinePiece.text) := ⟨kept, changedKept, rfl⟩
  have dropsSame :
      Literal.withoutAnchor (kept.flatMap LinePiece.text ++ dropped) =
        kept.flatMap LinePiece.text := by
    rcases shorter.ending with same | ⟨front, back, ending, ends, otherEnds⟩
    · rw [← same, ← whole]
    · have solid : Text.isBlank ')' = false := by decide
      have again := congrArg Literal.withoutAnchor whole
      rw [ends, List.append_assoc, List.cons_append,
        Literal.withoutAnchor_append_cons _ _ solid (by decide) (by decide)] at again
      rw [otherEnds, List.append_assoc, List.cons_append,
        Literal.withoutAnchor_append_cons _ _ solid (by decide) (by decide),
        ← (List.cons.inj (List.append_cancel_left again)).2]
  rw [dropsSame]
  exact ⟨dropped, whole, rfl, shorter⟩

theorem withoutAnchor (changes : ChangesArguments allowed text other) :
    ChangesArguments allowed (Literal.withoutAnchor text) (Literal.withoutAnchor other) := by
  obtain ⟨_, -, -, shorter⟩ := changes.exists_withoutAnchor_append
  exact shorter

end ChangesArguments

end LineTemplate
