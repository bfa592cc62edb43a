import LineTemplate.Proofs.Finishing
import LineTemplate.Proofs.LineParts

/-!
Contract: lines that are taken apart and put together again.

Owns:
- `Line.joined`, the parts of a line as one line;
- the shape of what stands before the directive of a line;
- `Line.parse_joined_iff`: which lines have the same parts again.

Does not own: the parts of finished rules.

Two kinds of lines do not come back. Where a separator at the end gave an empty directive, an
earlier one becomes the last. And a directive that begins with an arrow completes a separator
of its own with the space before it.
-/

namespace LineTemplate

namespace Text

theorem trimStart_trim (text : Text) : trimStart (trim text) = trim text := by
  cases same : trim text with
  | nil => rfl
  | cons first rest =>
      have begins : trim text <+: trimStart text := trimEnd_begins _
      obtain ⟨more, whole⟩ := begins
      have front : text.dropWhile isBlank = first :: (rest ++ more) := by
        rw [← List.cons_append, ← same]
        exact whole.symm
      have solid := List.head?_dropWhile_not isBlank text
      rw [front] at solid
      have stops : isBlank first = false := by simpa using solid
      simp [trimStart, stops]

theorem trim_trim (text : Text) : trim (trim text) = trim text := by
  conv_lhs => rw [trim, trimStart_trim]
  exact trimEnd_trimEnd _

end Text

namespace Line

/-- The marker of a line, where there is one. -/
def markerText (ignoreCase : Bool) : Text := if ignoreCase then marker else []

/-- What stands before the directive, with the marker in its plain case. -/
def marked (line : Line) : Text := markerText line.ignoreCase ++ line.content

/-- The parts of a line as one line. -/
def joined (line : Line) : Text := line.marked ++ Statement.directiveText line

variable {text : Text}

theorem trim_directive (text : Text) :
    Text.trim (parse text).directive = (parse text).directive := by
  rw [directive_parse, splitDirective]
  split
  · exact Text.trim_trim _
  · rfl

/-! ### What stands before the directive -/

theorem trimEnd_splitDirective (separated : separator <:+: text) :
    Text.trimEnd (splitDirective text).1 = (splitDirective text).1 := by
  rw [splitDirective]
  cases found : Text.splitAtLast? separator text with
  | none => exact absurd separated ((Text.splitAtLast?_eq_none_iff separator_ne_nil).mp found)
  | some parts => exact Text.trimEnd_trimEnd parts.1

theorem trimEnd_content (separated : separator <:+: text) :
    Text.trimEnd (parse text).content = (parse text).content := by
  obtain ⟨front, working, -⟩ := exists_marked text
  apply Text.trimEnd_of_suffix _ (trimEnd_splitDirective separated)
  rw [working]
  exact List.suffix_append front _

/-- Before a separator, a marker keeps its space only if a content follows. -/
theorem content_ne_nil_of_ignoreCase (separated : separator <:+: text)
    (ignores : (parse text).ignoreCase = true) : (parse text).content ≠ [] := by
  intro nothing
  obtain ⟨front, working, ⟨folded, -⟩ | ⟨-, regards, -⟩⟩ := exists_marked text
  · obtain ⟨bare, rfl⟩ := exists_bare_of_map_fold folded
    have whole := trimEnd_splitDirective separated
    have shorter := (Text.trimEnd_begins bare).length_le
    have space : Text.trimEnd (bare ++ [' ']) = Text.trimEnd bare :=
      List.rdropWhile_concat_pos Text.isBlank bare ' ' (by decide)
    rw [working, nothing, List.append_nil, space] at whole
    rw [whole, List.length_append] at shorter
    exact absurd shorter (by simp)
  · rw [ignores] at regards
    cases regards

theorem trimEnd_marked (separated : separator <:+: text) :
    Text.trimEnd (parse text).marked = (parse text).marked := by
  have content := trimEnd_content separated
  cases ignores : (parse text).ignoreCase with
  | true =>
      have filled := content_ne_nil_of_ignoreCase separated ignores
      rw [marked, ignores, markerText, if_pos rfl, trimEnd_marker_append, content, if_neg filled]
  | false =>
      rw [marked, ignores, markerText, if_neg Bool.false_ne_true, List.nil_append, content]

/-- Without a separator in the line, none comes up with the marker in its plain case. -/
theorem not_infix_marked (unseparated : ¬separator <:+: text) :
    ¬separator <:+: (parse text).marked := by
  intro occurs
  obtain ⟨front, working, marks⟩ := exists_marked text
  have whole : text = front ++ (parse text).content := by
    rwa [splitDirective_of_unseparated unseparated] at working
  rcases marks with ⟨folded, ignores⟩ | ⟨rfl, regards, -⟩
  · obtain ⟨bare, rfl⟩ := exists_bare_of_map_fold folded
    have written : (parse text).marked = bareMarker ++ ' ' :: (parse text).content := by
      rw [marked, ignores]
      rfl
    rw [written] at occurs
    have behind : separator <:+: ' ' :: (parse text).content :=
      Text.infix_of_infix_append_left (by decide) occurs
    apply unseparated
    rw [whole, List.append_assoc]
    exact behind.trans (List.suffix_append bare _).isInfix
  · rw [marked, regards, markerText, if_neg Bool.false_ne_true, List.nil_append] at occurs
    apply unseparated
    rwa [whole]

theorem dropMarker?_marked (text : Text) :
    dropMarker? (parse text).marked =
      if (parse text).ignoreCase then some (parse text).content else none := by
  obtain ⟨-, -, ⟨-, ignores⟩ | ⟨-, regards, unmarked⟩⟩ := exists_marked text
  · rw [marked, ignores]
    exact dropMarker?_marker_append _
  · rw [marked, regards]
    exact unmarked

/-! ### Lines put together -/

/-- A separator in a line without white space at its end has a directive behind it. -/
theorem directive_ne_nil_of_trimmed (separated : separator <:+: text)
    (trimmed : Text.trimEnd text = text) : (parse text).directive ≠ [] := by
  have found := mt (Text.splitAtLast?_eq_none_iff separator_ne_nil).mp (not_not.mpr separated)
  obtain ⟨⟨before, after⟩, split⟩ := Option.ne_none_iff_exists'.mp found
  rw [directive_parse, splitDirective, split]
  intro nothing
  have blank : Text.isAllBlank (' ' :: after) = true := by
    rw [Text.isAllBlank, List.all_cons]
    exact Bool.and_eq_true_iff.mpr ⟨by decide, Text.trim_eq_nil_iff.mp nothing⟩
  have ends : ' ' :: after <:+ text := by
    rw [Text.eq_append_of_splitAtLast? split]
    exact ⟨before ++ [' ', '-', '>'], by simp [separator]⟩
  have empty := Text.eq_nil_of_isAllBlank blank (Text.trimEnd_of_suffix ends trimmed)
  cases empty

section Directive

variable {directive : Text} (front : Text) (single : ¬separator <:+: directive)

include single

/-- A directive that was put behind a text is split off again, unless it begins with an arrow. -/
theorem splitDirective_append_of_not_pointed (unpointed : ¬"-> ".toList <+: directive) :
    splitDirective (front ++ (separator ++ directive)) =
      (Text.trimEnd front, Text.trim directive) := by
  rw [splitDirective_append_separator front single]
  split
  · rename_i rest pointed
    exact absurd ⟨rest, List.isPrefixOf?_eq_some_iff_append_eq.mp pointed⟩ unpointed
  · rfl

/-- The arrow at the beginning of a directive is split off with the space before it. -/
theorem splitDirective_append_of_pointed (pointed : "-> ".toList <+: directive) :
    (splitDirective (front ++ (separator ++ directive))).2 ≠ directive := by
  obtain ⟨rest, rfl⟩ := pointed
  have begins : ['-', '>', ' '].isPrefixOf? ("-> ".toList ++ rest) = some rest :=
    List.isPrefixOf?_eq_some_iff_append_eq.mpr rfl
  rw [splitDirective_append_separator front single, begins]
  intro same
  have shorter : (Text.trim rest).length ≤ rest.length := (Text.trim_infix rest).length_le
  have longer : rest.length < ("-> ".toList ++ rest).length := by
    rw [List.length_append]
    exact Nat.lt_add_of_pos_left (by decide)
  rw [← same] at longer
  exact absurd shorter (Nat.not_le.mpr longer)

end Directive

/-- What is split as the parts of a line are joined has these parts. -/
theorem parse_of_splitDirective {other : Text}
    (split : splitDirective other = ((parse text).marked, (parse text).directive)) :
    parse other = { parse text with text := other } := by
  rw [parse_eq other, split]
  dsimp only
  rw [dropMarker?_marked]
  obtain ⟨-, -, ⟨-, ignores⟩ | ⟨-, regards, -⟩⟩ := exists_marked text
  · simp [ignores]
  · simp [regards, marked, markerText]

/-- A line is put together again with the same parts exactly if its directive, where it has one,
does not begin with an arrow, and its content, where it has none, holds no separator. -/
theorem parse_joined_iff (text : Text) :
    parse (parse text).joined = { parse text with text := (parse text).joined } ↔
      ¬((parse text).directive = [] ∧ separator <:+: (parse text).marked) ∧
        ¬"-> ".toList <+: (parse text).directive := by
  by_cases absent : (parse text).directive = []
  · have joins : (parse text).joined = (parse text).marked := by
      rw [joined, Statement.directiveText_of_nil absent, List.append_nil]
    have unpointed : ¬"-> ".toList <+: (parse text).directive := by
      rw [absent]
      decide
    rw [joins]
    constructor
    · intro same
      refine ⟨?_, unpointed⟩
      rintro ⟨-, occurs⟩
      have separated : separator <:+: text := by
        by_contra unseparated
        exact not_infix_marked unseparated occurs
      have directed := directive_ne_nil_of_trimmed occurs (trimEnd_marked separated)
      rw [same] at directed
      exact directed absent
    · rintro ⟨single, -⟩
      have unseparated : ¬separator <:+: (parse text).marked := fun occurs =>
        single ⟨absent, occurs⟩
      apply parse_of_splitDirective
      rw [splitDirective_of_unseparated unseparated, absent]
  · have separated : separator <:+: text := by
      by_contra unseparated
      rw [directive_parse, splitDirective_of_unseparated unseparated] at absent
      exact absent rfl
    have joins : (parse text).joined =
        (parse text).marked ++ (separator ++ (parse text).directive) := by
      rw [joined, Statement.directiveText_of_ne_nil absent]
    have single := not_infix_directive text
    by_cases pointed : "-> ".toList <+: (parse text).directive
    · refine iff_of_false ?_ fun both => both.2 pointed
      intro same
      have other := splitDirective_append_of_pointed (parse text).marked single pointed
      rw [← joins, ← directive_parse, same] at other
      exact other rfl
    · refine iff_of_true ?_ ⟨fun both => absent both.1, pointed⟩
      apply parse_of_splitDirective
      rw [joins, splitDirective_append_of_not_pointed _ single pointed, trimEnd_marked separated,
        trim_directive]

/-- The second arrow of such a line belongs to its directive, but not when it is read again. -/
example : (parse "a -> \t-> b".toList).directive = "-> b".toList ∧
    (parse (parse "a -> \t-> b".toList).joined).directive = "b".toList := by
  decide

end Line

end LineTemplate
