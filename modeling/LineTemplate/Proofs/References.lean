import LineTemplate.Annotation.Reference
import LineTemplate.Proofs.Characters
import LineTemplate.Proofs.Composition

/-!
Contract: references in the statement of an expanded line.

Owns:
- `Inert`, for the texts in which nothing is a reference, and that literal text and
  the patterns of calls are such texts;
- `withGroups_statement`: with groups in the place of its references, a statement is
  the probe of the line.

Does not own: what the probe is read as.
-/

namespace LineTemplate

/-! ### Filling references -/

theorem fillReferences_nil (value : Text → Option Text) : fillReferences value [] = [] := by
  rw [fillReferences, RulePiece.ofText]
  rfl

theorem fillReferences_cons_of_none {first : Char} {rest : Text} (value : Text → Option Text)
    (none : RulePiece.readReference? (first :: rest) = none) :
    fillReferences value (first :: rest) = first :: fillReferences value rest := by
  rw [fillReferences, RulePiece.ofText]
  split
  · rename_i found
    rw [none] at found
    cases found
  · rfl

theorem RulePiece.readReference?_of_closed {name : Text} (proper : '\x7d' ∉ name) (after : Text) :
    readReference? ('$' :: '\x7b' :: (name ++ '\x7d' :: after)) = some (name, after) := by
  have inside : ∀ c ∈ name, (c != '\x7d') = true := by
    intro c member
    rw [bne_iff_ne]
    rintro rfl
    exact proper member
  simp [readReference?, List.dropWhile_append_of_pos inside, List.takeWhile_append_of_pos inside]

theorem fillReferences_of_readReference? {text name after : Text} (value : Text → Option Text)
    (read : RulePiece.readReference? text = some (name, after)) :
    fillReferences value text =
      (RulePiece.reference name).fill value ++ fillReferences value after := by
  cases text with
  | nil => cases read
  | cons first rest =>
      rw [fillReferences, RulePiece.ofText]
      split
      · rename_i found
        rw [read] at found
        cases found
        rfl
      · rename_i found
        rw [read] at found
        cases found

/-- A reference gives way to what its name stands for. -/
theorem fillReferences_reference {captured : Variable} {value : Text → Option Text}
    (proper : Text.isVariableName captured.name = true)
    (known : value captured.name = some captured.group) (rest : Text) :
    fillReferences value (captured.reference ++ rest) =
      captured.group ++ fillReferences value rest := by
  have written : captured.reference ++ rest =
      '$' :: '\x7b' :: (captured.name ++ '\x7d' :: rest) := by
    simp [Variable.reference]
  have read := RulePiece.readReference?_of_closed
    (Text.not_mem_of_isVariableName proper (c := '\x7d') (by decide)) rest
  rw [written, fillReferences_of_readReference? value read, RulePiece.fill, known]
  rfl

/-- Text before which a dollar sign does not begin a reference. -/
def Unbraced (text : Text) : Prop := text.head? ≠ some '\x7b'

instance (text : Text) : Decidable (Unbraced text) := inferInstanceAs (Decidable (_ ≠ _))

/-- A text in which nothing is a reference, whatever stands around it. -/
structure Inert (text : Text) : Prop where
  unbraced : Unbraced text
  fillReferences_append : ∀ (value : Text → Option Text) (rest : Text), Unbraced rest →
    fillReferences value (text ++ rest) = text ++ fillReferences value rest

theorem Unbraced.append {text rest : Text} (first : Unbraced text) (second : Unbraced rest) :
    Unbraced (text ++ rest) := by
  cases text with
  | nil => exact second
  | cons c text => exact first

namespace Inert

theorem of_unopened {text : Text} (unbraced : Unbraced text)
    (free : ¬['$', '\x7b'] <:+: text) : Inert text := by
  refine ⟨unbraced, fun value rest follows => ?_⟩
  clear unbraced
  induction text with
  | nil => rfl
  | cons first text inductionHypothesis =>
      have none : RulePiece.readReference? (first :: (text ++ rest)) = none := by
        unfold RulePiece.readReference?
        split
        · rename_i inside same
          exfalso
          simp only [List.cons.injEq] at same
          obtain ⟨rfl, behind⟩ := same
          cases text with
          | nil => exact follows (by rw [← List.nil_append rest, behind]; rfl)
          | cons next text =>
              cases behind
              exact free ⟨[], text, rfl⟩
        · rfl
      rw [List.cons_append, fillReferences_cons_of_none value none,
        inductionHypothesis fun occurs => free (occurs.trans (List.suffix_cons first text).isInfix),
        List.cons_append]

theorem nil : Inert [] := .of_unopened (by decide) (by decide)

theorem single {c : Char} (other : c ≠ '\x7b') : Inert [c] :=
  .of_unopened (by simpa [Unbraced] using other) fun occurs =>
    absurd occurs.length_le (by simp)

theorem append {text more : Text} (first : Inert text) (second : Inert more) :
    Inert (text ++ more) where
  unbraced := first.unbraced.append second.unbraced
  fillReferences_append value rest follows := by
    rw [List.append_assoc, first.fillReferences_append value _ (second.unbraced.append follows),
      second.fillReferences_append value rest follows, List.append_assoc]

theorem composes : Composes Inert := ⟨nil, append⟩

end Inert

/-! ### Literal text and patterns -/

namespace Literal

theorem inert_escapeChar (c : Char) : Inert (escapeChar c) := by
  unfold escapeChar
  split
  · refine .of_unopened (by simp [Unbraced]) fun occurs => ?_
    cases occurs.eq_of_length rfl
  · rename_i plain
    refine .single ?_
    rintro rfl
    exact plain (by decide)

theorem inert_encode (text : Text) : Inert (encode text) := by
  apply Inert.composes.encode inert_escapeChar
  · exact .of_unopened (by decide) (by decide)
  · exact .of_unopened (by decide) (by decide)

end Literal

theorem Keyword.inert_pattern {keyword : Keyword} (known : keyword ∈ all) :
    Inert keyword.pattern := by
  have checked : ∀ keyword ∈ all,
      Unbraced keyword.pattern ∧ ¬['$', '\x7b'] <:+: keyword.pattern := by decide +kernel
  exact .of_unopened (checked keyword known).1 (checked keyword known).2

theorem CallArguments.inert_pattern {keyword : Keyword} (known : keyword ∈ Keyword.all)
    (arguments : CallArguments) : Inert (pattern keyword arguments) := by
  apply Inert.composes.pattern (Keyword.inert_pattern known)
  · exact .of_unopened (by decide) (by decide)
  · exact .single (by decide)
  · exact .single (by decide)
  · exact fun alternative _ => Inert.composes.escape Literal.inert_escapeChar alternative

/-! ### Statements -/

namespace ExpandedPart

/-- With a group in the place of its reference, the part of a statement is that of the
probe. -/
structure Fills (part : ExpandedPart) : Prop where
  unbraced : Unbraced part.statement
  fillReferences_append : ∀ (value : Text → Option Text) (rest : Text),
    (∀ captured ∈ part.captured?, value captured.name = some captured.group) → Unbraced rest →
      fillReferences value (part.statement ++ rest) = part.probe ++ fillReferences value rest

theorem fills_of_inert {part : ExpandedPart} (inert : Inert part.statement)
    (same : part.probe = part.statement) : part.Fills where
  unbraced := inert.unbraced
  fillReferences_append value rest _ follows := by
    rw [inert.fillReferences_append value rest follows, same]

theorem fills_of_ofCall {call : KeywordCall} {part : ExpandedPart}
    (known : call.keyword ∈ Keyword.all) (expanded : ofCall call = .ok part) : part.Fills := by
  obtain ⟨arguments, read, ⟨-, rfl⟩ | ⟨-, rfl⟩ | ⟨-, captured, named, -, rfl⟩⟩ :=
    ofCall_eq_ok expanded
  · exact fills_of_inert (Keyword.inert_pattern known) rfl
  · exact fills_of_inert (CallArguments.inert_pattern known arguments) rfl
  · have proper := CallArguments.isVariableName_of_read read captured.name named
    refine ⟨by simp [Unbraced, statement, Variable.reference], fun value rest grouped _ => ?_⟩
    exact fillReferences_reference proper (grouped captured rfl) rest

/-- A statement whose parts fill is the probe, with groups in the place of references. -/
theorem fillReferences_statement {parts : List ExpandedPart} {value : Text → Option Text}
    (fills : ∀ part ∈ parts, part.Fills)
    (grouped : ∀ part ∈ parts, ∀ captured ∈ part.captured?,
      value captured.name = some captured.group) :
    Unbraced (parts.flatMap statement) ∧
      fillReferences value (parts.flatMap statement) = parts.flatMap probe := by
  -- A part may end with a dollar sign, so the rest must not begin with a brace.
  induction parts with
  | nil => exact ⟨by decide, fillReferences_nil value⟩
  | cons part parts inductionHypothesis =>
      obtain ⟨unbraced, filled⟩ := inductionHypothesis
        (fun other member => fills other (by simp [member]))
        (fun other member => grouped other (by simp [member]))
      have first := fills part (by simp)
      rw [List.flatMap_cons, List.flatMap_cons]
      refine ⟨first.unbraced.append unbraced, ?_⟩
      rw [first.fillReferences_append value _ (grouped part (by simp)) unbraced, filled]

end ExpandedPart

/-- Where names are distinct, each stands for the group of its own variable. -/
theorem Variable.groupOf?_of_mem {bound : List Variable} {captured : Variable}
    (distinct : (bound.map Variable.name).Nodup) (member : captured ∈ bound) :
    groupOf? bound captured.name = some captured.group := by
  have found : bound.find? (fun known => known.name = captured.name) = some captured := by
    induction bound with
    | nil => cases member
    | cons first others inductionHypothesis =>
        rw [List.map_cons, List.nodup_cons] at distinct
        rcases List.mem_cons.1 member with rfl | later
        · exact List.find?_cons_of_pos (by simp)
        · have different : first.name ≠ captured.name := by
            intro same
            exact distinct.1 (same ▸ List.mem_map_of_mem later)
          rw [List.find?_cons_of_neg (by simpa using different)]
          exact inductionHypothesis distinct.2 later
  rw [groupOf?, found, Option.map_some]

/-- With groups in the place of its references, the statement of a line is its probe. -/
theorem withGroups_statement {annotated : AnnotatedText} {parts : List ExpandedPart}
    (known : ∀ call ∈ annotated.calls, call.keyword ∈ Keyword.all)
    (expanded : annotated.expand = .ok parts) :
    withGroups (capturedVariables parts) (parts.flatMap ExpandedPart.statement) =
      parts.flatMap ExpandedPart.probe := by
  have distinct := (AnnotatedText.nodup_boundNames_of_expandFrom expanded).1
  rw [← map_name_capturedVariables] at distinct
  have fills : ∀ part ∈ parts, part.Fills :=
    AnnotatedText.forall_parts_of_expandFrom
      (fun text => ExpandedPart.fills_of_inert (Literal.inert_encode text) rfl)
      (fun call member part => ExpandedPart.fills_of_ofCall (known call member)) expanded
  refine (ExpandedPart.fillReferences_statement fills fun part member captured captures => ?_).2
  exact Variable.groupOf?_of_mem distinct (List.mem_filterMap.2 ⟨part, member, captures⟩)

end LineTemplate
