import LineTemplate.Proofs.TextLines
import Mathlib.Data.List.TakeWhile

/-!
Contract: when the block at the head of a template is nothing but comments.

Owns:
- the lines of text that each line of the block takes up, its fields being free text;
- `Metadata.StaysCommented`, and that the block is one of comments exactly then;
- that exactly then it leaves the lines below the comments of a template what they are.

Does not own: what is read of the lines below the comments.
-/

namespace LineTemplate

/-! ### Text behind a first line -/

namespace Text

/-- What is put in front of a text without a newline lengthens its first line only. -/
theorem exists_splitOn_append {before : Text} (unbroken : '\n' ∉ before) (text : Text) :
    ∃ first, (before ++ text).splitOn '\n' = (before ++ first) :: (text.splitOn '\n').tail := by
  induction before with
  | nil =>
      obtain ⟨first, more, split⟩ := List.exists_cons_of_ne_nil (List.splitOn_ne_nil '\n' text)
      exact ⟨first, by rw [List.nil_append, split]; rfl⟩
  | cons c before inductionHypothesis =>
      obtain ⟨first, split⟩ := inductionHypothesis (List.not_mem_of_not_mem_cons unbroken)
      have solid : (c == '\n') = false := by
        simpa using (List.ne_of_not_mem_cons unbroken).symm
      refine ⟨first, ?_⟩
      rw [List.cons_append, List.splitOn_cons_eq_if_modifyHead, solid, split]
      rfl

/-- All lines that a text takes up are comments. -/
def IsCommented (text : Text) : Prop := ∀ line ∈ text.splitOn '\n', line.head? = some '#'

theorem isCommented_of_unbroken {text : Text} (unbroken : '\n' ∉ text)
    (comment : text.head? = some '#') : IsCommented text := by
  intro line among
  rw [List.splitOn_eq_singleton unbroken, List.mem_singleton] at among
  rwa [among]

end Text

/-! ### The block -/

namespace Metadata

/-- A field takes up a comment and whatever lines follow the first of its value. -/
theorem isCommented_fieldLine_iff {label : String} (unbroken : '\n' ∉ label.toList)
    (value : Text) :
    Text.IsCommented (fieldLine label value) ↔
      ∀ line ∈ (value.splitOn '\n').tail, line.head? = some '#' := by
  have before : '\n' ∉ "# ".toList ++ padLabel label.toList ++ ": ".toList := by
    simp [padLabel, unbroken]
  obtain ⟨first, split⟩ := Text.exists_splitOn_append before value
  unfold Text.IsCommented fieldLine
  rw [split, List.forall_mem_cons]
  exact and_iff_right rfl

theorem isCommented_fieldLines_iff {label : String} (unbroken : '\n' ∉ label.toList)
    (value : Text) :
    (∀ line ∈ fieldLines label value, Text.IsCommented line) ↔
      ∀ line ∈ (value.splitOn '\n').tail, line.head? = some '#' := by
  unfold fieldLines
  split
  · rename_i absent
    rw [List.isEmpty_iff.mp absent]
    simp
  · rw [List.forall_mem_singleton, isCommented_fieldLine_iff unbroken]

/-- Each line of a description is a comment of its own. -/
theorem isCommented_descriptionLines (description : Text) :
    ∀ line ∈ descriptionLines description, Text.IsCommented line := by
  have unbroken : ∀ line ∈ ((Text.lines description).filter fun line =>
      !Text.isAllBlank line).map Text.trimEnd, '\n' ∉ line := by
    intro line among newline
    obtain ⟨whole, kept, rfl⟩ := List.mem_map.mp among
    have inWhole : '\n' ∈ whole := by
      simp only [Text.trimEnd, List.mem_reverse] at newline
      exact List.mem_reverse.mp ((List.dropWhile_suffix _).subset newline)
    exact Text.not_mem_of_mem_lines (List.mem_filter.mp kept).1 inWhole
  unfold descriptionLines
  dsimp only
  split
  · simp
  · rename_i first more split
    rw [split] at unbroken
    obtain ⟨firstUnbroken, moreUnbroken⟩ := List.forall_mem_cons.mp unbroken
    rw [List.forall_mem_cons]
    refine ⟨?_, ?_⟩
    · rw [isCommented_fieldLine_iff (by decide), List.splitOn_eq_singleton firstUnbroken]
      simp
    · intro line among
      obtain ⟨value, member, rfl⟩ := List.mem_map.mp among
      apply Text.isCommented_of_unbroken
      · simp [continuationLine, padLabel, moreUnbroken value member]
      · rfl

/-- The fields that are written as they are, each behind a label. -/
def plainFields (metadata : Metadata) : List Text :=
  [metadata.author, metadata.email, metadata.company, metadata.created]

/-- No field that is written as it is goes on, behind a newline, with a line that is not a
comment. -/
def StaysCommented (metadata : Metadata) : Prop :=
  ∀ value ∈ metadata.plainFields, ∀ line ∈ (value.splitOn '\n').tail, line.head? = some '#'

theorem staysCommented_of_unbroken {metadata : Metadata}
    (unbroken : ∀ value ∈ metadata.plainFields, '\n' ∉ value) : metadata.StaysCommented := by
  intro value among line member
  rw [List.splitOn_eq_singleton (unbroken value among)] at member
  cases member

theorem splitOn_render (metadata : Metadata) :
    metadata.render.splitOn '\n' = metadata.lines.flatMap fun line => line.splitOn '\n' := by
  have filled : metadata.lines ≠ [] := by simp [lines]
  rw [← Template.endedLines_flatMap_endLine, ← Template.endLine_intercalate filled,
    ← List.append_nil (Template.endLine _), Template.endedLines_endLine_append]
  exact (List.append_nil _).symm

theorem isCommented_render_iff (metadata : Metadata) :
    Text.IsCommented metadata.render ↔ metadata.StaysCommented := by
  have ruled : Text.IsCommented ruler := Text.isCommented_of_unbroken (by decide) (by decide)
  have generated : Text.IsCommented "# Template is generated by templateapp 0.1.0".toList :=
    Text.isCommented_of_unbroken (by decide) (by decide)
  have each : Text.IsCommented metadata.render ↔
      ∀ line ∈ metadata.lines, Text.IsCommented line := by
    unfold Text.IsCommented
    rw [splitOn_render]
    simp only [List.mem_flatMap, forall_exists_index, and_imp]
    exact ⟨fun all line among row member => all row line among member,
      fun all row line among member => all line among row member⟩
  have described := isCommented_descriptionLines metadata.description
  rw [each, lines, StaysCommented, plainFields]
  simp only [List.forall_mem_append, List.forall_mem_cons]
  rw [isCommented_fieldLines_iff (by decide), isCommented_fieldLines_iff (by decide),
    isCommented_fieldLines_iff (by decide), isCommented_fieldLines_iff (by decide)]
  simp only [ruled, generated, iff_true_intro described, List.not_mem_nil, IsEmpty.forall_iff,
    implies_true, true_and, and_true, and_assoc]

end Metadata

/-! ### Below the comments -/

namespace Template

/-- The lines of a template below the comments at its head. -/
def linesBelow (text : Text) : List Text :=
  (endedLines text).dropWhile fun line => line.head? = some '#'

theorem render_withMetadata (metadata : Metadata) (declared : List Variable)
    (states : List State) :
    render ⟨some metadata, declared, states⟩ =
      endLine metadata.render ++ render ⟨none, declared, states⟩ := rfl

/-- Lines in front are passed over only if the test holds of all of them. -/
theorem dropWhile_append_eq_iff {α : Type} {test : α → Bool} {front rest : List α} :
    (front ++ rest).dropWhile test = rest.dropWhile test ↔ ∀ value ∈ front, test value = true := by
  constructor
  · intro same
    by_contra fails
    have stops : front.dropWhile test ≠ [] := by
      intro all
      exact fails (by simpa using List.dropWhile_eq_nil_iff.mp all)
    -- What is left of the front makes the whole longer than the rest.
    have shorter : (rest.dropWhile test).length ≤ rest.length :=
      (List.dropWhile_suffix test).length_le
    have longer := congrArg List.length same
    rw [List.dropWhile_append, if_neg (by simpa using stops), List.length_append] at longer
    have positive := List.length_pos_of_ne_nil stops
    omega
  · intro all
    rw [List.dropWhile_append, List.dropWhile_eq_nil_iff.mpr all]
    rfl

theorem linesBelow_withMetadata_iff {metadata : Metadata} (declared : List Variable)
    (states : List State) :
    linesBelow (render ⟨some metadata, declared, states⟩) =
        linesBelow (render ⟨none, declared, states⟩) ↔
      Text.IsCommented metadata.render := by
  unfold linesBelow Text.IsCommented
  rw [render_withMetadata, endedLines_endLine_append, dropWhile_append_eq_iff]
  simp

/-- The block at the head of a template is one of comments, and leaves what stands below the
comments as it is, exactly if the fields that are written as they are stay comments. -/
theorem commentBlock_iff (metadata : Metadata) :
    ((∀ line ∈ metadata.render.splitOn '\n', line.head? = some '#') ↔
        metadata.StaysCommented) ∧
      ∀ declared states,
        (linesBelow (render ⟨some metadata, declared, states⟩) =
            linesBelow (render ⟨none, declared, states⟩) ↔
          metadata.StaysCommented) := by
  refine ⟨metadata.isCommented_render_iff, ?_⟩
  intro declared states
  rw [linesBelow_withMetadata_iff, metadata.isCommented_render_iff]

/-- The second line of an author is no comment, and can be read as a declaration. -/
theorem author_uncommented :
    "Value x (.+)".toList ∈
        (Metadata.render ⟨"Jane\nValue x (.+)".toList, [], [], [], []⟩).splitOn '\n' ∧
      ¬∀ line ∈ (Metadata.render ⟨"Jane\nValue x (.+)".toList, [], [], [], []⟩).splitOn '\n',
          line.head? = some '#' := by
  decide +kernel

end Template

end LineTemplate
