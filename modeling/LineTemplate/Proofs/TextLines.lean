import LineTemplate.Template.Reading
import Mathlib.Data.List.Basic

/-!
Contract: texts put together of lines, and taken apart into lines again.

Owns:
- `Text.IsLine`, the texts that a line can be;
- the lines of a text in which a newline stands behind each line, or only between lines;
- what the characters of a line are;
- the lines that a reader of templates finds in such a text.

Does not own: what stands on the lines.
-/

namespace LineTemplate

open Template

namespace Text

/-- A text that is found again as a line: no newline cuts it, and no carriage return at its
end is taken for a part of the newline behind it. -/
structure IsLine (line : Text) : Prop where
  unbroken : '\n' ∉ line
  noReturn : line.getLast? ≠ some '\r'

instance (line : Text) : Decidable (IsLine line) :=
  decidable_of_iff ('\n' ∉ line ∧ line.getLast? ≠ some '\r')
    ⟨fun both => ⟨both.1, both.2⟩, fun isLine => ⟨isLine.unbroken, isLine.noReturn⟩⟩

theorem IsLine.tail {first : Char} {rest : Text} (isLine : IsLine (first :: rest)) :
    IsLine rest := by
  refine ⟨List.not_mem_of_not_mem_cons isLine.unbroken, ?_⟩
  intro returns
  apply isLine.noReturn
  rw [List.getLast?_cons, returns]
  rfl

/-! ### Lines of a text -/

/-- A character that neither is nor begins a newline stands at the beginning of a line. -/
theorem lines_cons {first : Char} {rest : Text} (solid : first ≠ '\n')
    (alone : first = '\r' → rest.head? ≠ some '\n') :
    lines (first :: rest) =
      match lines rest with
      | [] => [[first]]
      | line :: more => (first :: line) :: more := by
  apply Text.lines.eq_4
  · exact solid
  · intro more returns same
    exact alone returns (by rw [same]; rfl)

/-- The first character of a line begins no newline, whatever comes behind the line. -/
theorem IsLine.alone {first : Char} {rest : Text} (isLine : IsLine (first :: rest))
    (more : Text) : first = '\r' → (rest ++ '\n' :: more).head? ≠ some '\n' := by
  intro returns newline
  cases rest with
  | nil => exact isLine.noReturn (by rw [returns]; rfl)
  | cons second rest =>
      have same : second = '\n' := by simpa using newline
      exact isLine.unbroken (by simp [same])

theorem IsLine.solid {first : Char} {rest : Text} (isLine : IsLine (first :: rest)) :
    first ≠ '\n' := by
  intro newline
  exact isLine.unbroken (by simp [newline])

/-- A line is the first one of a text in which it is ended. -/
theorem IsLine.lines_endLine_append {line : Text} (isLine : IsLine line) (rest : Text) :
    lines (endLine line ++ rest) = line :: lines rest := by
  rw [endLine, List.append_assoc, List.singleton_append]
  induction line with
  | nil => rfl
  | cons first line inductionHypothesis =>
      rw [List.cons_append, lines_cons isLine.solid (isLine.alone rest),
        inductionHypothesis isLine.tail]

/-- A line that is not ended is the only one, if there is anything on it. -/
theorem IsLine.lines_eq {line : Text} (isLine : IsLine line) (filled : line ≠ []) :
    lines line = [line] := by
  induction line with
  | nil => exact absurd rfl filled
  | cons first rest inductionHypothesis =>
      have alone : first = '\r' → rest.head? ≠ some '\n' := by
        intro returns newline
        exact isLine.tail.unbroken (List.mem_of_head? newline)
      rw [lines_cons isLine.solid alone]
      cases rest with
      | nil => rfl
      | cons second rest => rw [inductionHypothesis isLine.tail (by simp)]

theorem IsLine.lines_begins {line : Text} (isLine : IsLine line) : lines line <+: [line] := by
  by_cases filled : line = []
  · rw [filled]
    exact List.nil_prefix
  · exact ⟨[], by rw [isLine.lines_eq filled, List.append_nil]⟩

theorem lines_flatMap_endLine {each : List Text} (areLines : ∀ line ∈ each, IsLine line)
    (rest : Text) : lines (each.flatMap endLine ++ rest) = each ++ lines rest := by
  induction each with
  | nil => rfl
  | cons line more inductionHypothesis =>
      obtain ⟨isLine, others⟩ := List.forall_mem_cons.mp areLines
      rw [List.flatMap_cons, List.append_assoc, isLine.lines_endLine_append,
        inductionHypothesis others, List.cons_append]

/-! ### Characters of a line -/

/-- The characters of a line are characters of the text, and none is a newline. -/
theorem mem_lines_spec {text line : Text} {c : Char} (among : line ∈ lines text)
    (member : c ∈ line) : c ∈ text ∧ c ≠ '\n' := by
  induction text using lines.induct generalizing line with
  | case1 => cases among
  | case2 rest inductionHypothesis =>
      rcases List.mem_cons.mp among with rfl | later
      · cases member
      · obtain ⟨inside, solid⟩ := inductionHypothesis later member
        exact ⟨List.mem_cons_of_mem _ inside, solid⟩
  | case3 rest inductionHypothesis =>
      rcases List.mem_cons.mp among with rfl | later
      · cases member
      · obtain ⟨inside, solid⟩ := inductionHypothesis later member
        exact ⟨List.mem_cons_of_mem _ (List.mem_cons_of_mem _ inside), solid⟩
  | case4 first rest solid alone none inductionHypothesis =>
      rw [lines.eq_4 first rest solid alone, none] at among
      obtain rfl : line = [first] := by simpa using among
      obtain rfl : c = first := by simpa using member
      exact ⟨List.mem_cons_self, solid⟩
  | case5 first rest solid alone head more split inductionHypothesis =>
      rw [lines.eq_4 first rest solid alone, split] at among
      rw [split] at inductionHypothesis
      rcases List.mem_cons.mp among with rfl | later
      · rcases List.mem_cons.mp member with rfl | inside
        · exact ⟨List.mem_cons_self, solid⟩
        · obtain ⟨inText, newline⟩ := inductionHypothesis List.mem_cons_self inside
          exact ⟨List.mem_cons_of_mem _ inText, newline⟩
      · obtain ⟨inText, newline⟩ := inductionHypothesis (List.mem_cons_of_mem _ later) member
        exact ⟨List.mem_cons_of_mem _ inText, newline⟩

theorem not_mem_of_mem_lines {text line : Text} (among : line ∈ lines text) : '\n' ∉ line :=
  fun member => (mem_lines_spec among member).2 rfl

/-! ### Lines with newlines between them -/

theorem intercalate_concat (each : List Text) (last : Text) :
    ['\n'].intercalate (each ++ [last]) = each.flatMap endLine ++ last := by
  induction each with
  | nil => exact List.intercalate_singleton
  | cons line more inductionHypothesis =>
      have filled : more ++ [last] ≠ [] := by simp
      rw [List.cons_append, List.intercalate_cons_of_ne_nil filled, inductionHypothesis,
        List.flatMap_cons, endLine, List.append_assoc (line ++ ['\n'])]

theorem lines_intercalate_concat {each : List Text} (areLines : ∀ line ∈ each, IsLine line)
    (last : Text) : lines (['\n'].intercalate (each ++ [last])) = each ++ lines last := by
  rw [intercalate_concat, lines_flatMap_endLine areLines]

/-- The text of lines: a newline stands between them and, where the last one is ended too,
at the end. -/
def ofLines (ended : Bool) (each : List Text) : Text :=
  if ended then each.flatMap endLine else ['\n'].intercalate each

/-- More lines leave the lines of a text what they are. -/
theorem lines_ofLines_begins (ended : Bool) {each more : List Text}
    (areLines : ∀ line ∈ each ++ more, IsLine line) :
    lines (ofLines ended each) <+: lines (ofLines ended (each ++ more)) := by
  obtain ⟨areFirst, areMore⟩ := List.forall_mem_append.mp areLines
  cases ended with
  | true =>
      have shorter := lines_flatMap_endLine areFirst []
      have longer := lines_flatMap_endLine areLines []
      rw [List.append_nil] at shorter longer
      change lines (each.flatMap endLine) <+: lines ((each ++ more).flatMap endLine)
      rw [shorter, longer, lines, List.append_nil, List.append_nil]
      exact List.prefix_append each more
  | false =>
      change lines (['\n'].intercalate each) <+: lines (['\n'].intercalate (each ++ more))
      rcases List.eq_nil_or_concat' more with rfl | ⟨init, last, rfl⟩
      · exact ⟨[], by rw [List.append_nil, List.append_nil]⟩
      rcases List.eq_nil_or_concat' each with rfl | ⟨front, final, rfl⟩
      · exact List.nil_prefix
      -- Only the last line of the shorter text may be missing there, when it is empty.
      obtain ⟨areFront, isLine⟩ := List.forall_mem_append.mp areFirst
      have areInit := (List.forall_mem_append.mp areMore).1
      have shorter := lines_intercalate_concat areFront final
      have longer := lines_intercalate_concat (List.forall_mem_append.mpr ⟨areFirst, areInit⟩) last
      rw [← List.append_assoc, shorter, longer, List.append_assoc, List.append_assoc,
        List.prefix_append_right_inj]
      exact (isLine final List.mem_cons_self).lines_begins.trans (List.prefix_append _ _)

end Text

/-! ### Lines that a reader finds -/

namespace Template

theorem endLine_intercalate {each : List Text} (filled : each ≠ []) :
    endLine (['\n'].intercalate each) = each.flatMap endLine := by
  obtain ⟨init, last, rfl⟩ := (List.eq_nil_or_concat' each).resolve_left filled
  rw [Text.intercalate_concat, List.flatMap_append, List.flatMap_singleton,
    endLine, endLine, List.append_assoc]

theorem endedLines_endLine_append (text rest : Text) :
    endedLines (endLine text ++ rest) = text.splitOn '\n' ++ endedLines rest := by
  rw [endLine, List.append_assoc, List.singleton_append, endedLines,
    List.splitOn_append_cons_self, List.dropLast_append_of_ne_nil (List.splitOn_ne_nil _ _),
    endedLines]

theorem endedLines_flatMap_endLine (each : List Text) :
    endedLines (each.flatMap endLine) = each.flatMap fun text => text.splitOn '\n' := by
  induction each with
  | nil => rfl
  | cons text more inductionHypothesis =>
      rw [List.flatMap_cons, endedLines_endLine_append, inductionHypothesis, List.flatMap_cons]

theorem endedLines_of_unbroken {each : List Text} (unbroken : ∀ line ∈ each, '\n' ∉ line) :
    endedLines (each.flatMap endLine) = each := by
  rw [endedLines_flatMap_endLine]
  induction each with
  | nil => rfl
  | cons line more inductionHypothesis =>
      obtain ⟨first, others⟩ := List.forall_mem_cons.mp unbroken
      rw [List.flatMap_cons, List.splitOn_eq_singleton first, inductionHypothesis others]
      rfl

end Template

end LineTemplate
