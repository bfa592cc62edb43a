import LineTemplate.Line
import Mathlib.Data.List.Infix
import Mathlib.Data.List.Basic
import Mathlib.Data.List.DropRight

/-!
Contract: where a line is taken apart.

Owns:
- splitting at the last separator, for texts put together from others;
- trimming at the end of a text, likewise;
- the places of the marker, the content and the directive in a line;
- the parts of a line that begins as a finished rule does.

Does not own: the bodies of rules.
-/

namespace LineTemplate

namespace Text

/-! ### The last separator -/

theorem splitAtLast?_eq_none_iff {separator text : Text} (nonempty : separator ≠ []) :
    splitAtLast? separator text = none ↔ ¬separator <:+: text := by
  induction text with
  | nil => simpa [splitAtLast?] using nonempty
  | cons first rest inductionHypothesis =>
      rw [List.infix_cons_iff, splitAtLast?]
      cases found : splitAtLast? separator rest with
      | some parts =>
          have later : separator <:+: rest := by
            by_contra absent
            rw [inductionHypothesis.2 absent] at found
            exact absurd found (by simp)
          simp [later]
      | none =>
          have absent := inductionHypothesis.1 found
          simp only [absent, or_false, Option.map_eq_none_iff]
          rw [Option.eq_none_iff_forall_ne_some]
          simp only [ne_eq, List.isPrefixOf?_eq_some_iff_append_eq]
          exact ⟨fun no ⟨after, same⟩ => no after same, fun no after same => no ⟨after, same⟩⟩

theorem eq_append_of_splitAtLast? {separator text before after : Text}
    (found : splitAtLast? separator text = some (before, after)) :
    text = before ++ (separator ++ after) := by
  induction text generalizing before with
  | nil => simp [splitAtLast?] at found
  | cons first rest inductionHypothesis =>
      rw [splitAtLast?] at found
      split at found
      · rename_i earlier later split
        simp only [Option.some.injEq, Prod.mk.injEq] at found
        obtain ⟨rfl, rfl⟩ := found
        rw [inductionHypothesis split, List.cons_append]
      · simp only [Option.map_eq_some_iff, List.isPrefixOf?_eq_some_iff_append_eq,
          Prod.mk.injEq] at found
        obtain ⟨_, same, rfl, rfl⟩ := found
        rw [← same, List.nil_append]

/-- No separator follows the last one, not even one that overlaps it. -/
theorem not_infix_of_splitAtLast? {separator text before after : Text} (nonempty : separator ≠ [])
    (found : splitAtLast? separator text = some (before, after)) :
    ¬separator <:+: (separator ++ after).tail := by
  induction text generalizing before with
  | nil => simp [splitAtLast?] at found
  | cons first rest inductionHypothesis =>
      rw [splitAtLast?] at found
      split at found
      · rename_i earlier later split
        simp only [Option.some.injEq, Prod.mk.injEq] at found
        obtain ⟨rfl, rfl⟩ := found
        exact inductionHypothesis split
      · rename_i absent
        simp only [Option.map_eq_some_iff, List.isPrefixOf?_eq_some_iff_append_eq,
          Prod.mk.injEq] at found
        obtain ⟨_, same, rfl, rfl⟩ := found
        rw [same]
        exact (splitAtLast?_eq_none_iff nonempty).1 absent

/-- What stands before the last separator does not matter for finding it. -/
theorem splitAtLast?_append_of_some {separator more before after : Text} (text : Text)
    (found : splitAtLast? separator more = some (before, after)) :
    splitAtLast? separator (text ++ more) = some (text ++ before, after) := by
  induction text with
  | nil => exact found
  | cons first rest inductionHypothesis =>
      rw [List.cons_append, splitAtLast?, inductionHypothesis]
      rfl

/-- A separator with none behind it is the last one. -/
theorem splitAtLast?_separator_append {separator after : Text} (nonempty : separator ≠ [])
    (last : ¬separator <:+: (separator ++ after).tail) :
    splitAtLast? separator (separator ++ after) = some ([], after) := by
  obtain ⟨first, rest, rfl⟩ := List.exists_cons_of_ne_nil nonempty
  have none := (splitAtLast?_eq_none_iff nonempty).2 last
  have here : (first :: rest).isPrefixOf? (first :: (rest ++ after)) = some after := by
    rw [List.isPrefixOf?_eq_some_iff_append_eq, List.cons_append]
  rw [List.cons_append, List.tail_cons] at none
  rw [List.cons_append, splitAtLast?, none, here]
  rfl

/-- Characters at which no separator begins are passed over. -/
theorem splitAtLast?_cons_of_none {separator text : Text} (first : Char)
    (absent : separator.isPrefixOf? (first :: text) = none) :
    splitAtLast? separator (first :: text) =
      (splitAtLast? separator text).map fun (before, after) => (first :: before, after) := by
  rw [splitAtLast?, absent]
  cases splitAtLast? separator text <;> rfl

/-! ### White space at the end -/

theorem trimEnd_cons (first : Char) (rest : Text) :
    trimEnd (first :: rest) =
      if trimEnd rest = [] ∧ isBlank first then [] else first :: trimEnd rest := by
  unfold trimEnd
  rw [List.reverse_cons, List.dropWhile_append]
  cases List.dropWhile isBlank rest.reverse with
  | nil => cases blank : isBlank first <;> simp [List.dropWhile, blank]
  | cons last before => simp

/-- Nothing is trimmed before a character that is not white space. -/
theorem trimEnd_append_cons (text : Text) {first : Char} (rest : Text)
    (solid : isBlank first = false) :
    trimEnd (text ++ first :: rest) = text ++ first :: trimEnd rest := by
  induction text with
  | nil => simp [trimEnd_cons, solid]
  | cons c text inductionHypothesis =>
      rw [List.cons_append, trimEnd_cons, inductionHypothesis]
      simp

theorem exists_blanks_trimEnd (text : Text) :
    ∃ blanks, text = trimEnd text ++ blanks ∧ ∀ c ∈ blanks, isBlank c = true := by
  refine ⟨(text.reverse.takeWhile isBlank).reverse, ?_, ?_⟩
  · rw [trimEnd, ← List.reverse_append, List.takeWhile_append_dropWhile, List.reverse_reverse]
  · intro c member
    exact List.all_eq_true.1 List.all_takeWhile c (List.mem_reverse.1 member)

theorem trimEnd_begins (text : Text) : trimEnd text <+: text :=
  List.rdropWhile_prefix isBlank text

@[simp] theorem trimEnd_trimEnd (text : Text) : trimEnd (trimEnd text) = trimEnd text :=
  List.rdropWhile_idempotent isBlank text

/-- The end of a text has white space at its end only if the text does. -/
theorem trimEnd_of_suffix {text rest : Text} (ends : rest <:+ text)
    (trimmed : trimEnd text = text) : trimEnd rest = rest := by
  refine List.rdropWhile_eq_self_iff.2 fun nonempty => ?_
  rw [ends.getLast nonempty]
  exact List.rdropWhile_eq_self_iff.1 trimmed _

theorem eq_nil_of_isAllBlank {text : Text} (blank : isAllBlank text = true)
    (trimmed : trimEnd text = text) : text = [] := by
  rw [isAllBlank, List.all_eq_true] at blank
  rw [← trimmed, trimEnd, List.reverse_eq_nil_iff, List.dropWhile_eq_nil_iff]
  exact fun c member => blank c (List.mem_reverse.1 member)

theorem trim_infix (text : Text) : trim text <:+: text :=
  (trimEnd_begins _).isInfix.trans (List.dropWhile_suffix _).isInfix

end Text

/-! ### The parts of a line -/

namespace Line

theorem separator_ne_nil : separator ≠ [] := by decide

theorem splitDirective_of_unseparated {text : Text} (unseparated : ¬separator <:+: text) :
    splitDirective text = (text, []) := by
  rw [splitDirective, (Text.splitAtLast?_eq_none_iff separator_ne_nil).2 unseparated]

theorem splitDirective_begins (text : Text) : (splitDirective text).1 <+: text := by
  rw [splitDirective]
  split
  · rename_i before after found
    rw [Text.eq_append_of_splitAtLast? found]
    exact (Text.trimEnd_begins before).trans (List.prefix_append _ _)
  · exact List.prefix_rfl

/-- A text has a marker if it begins with one in any case. -/
theorem dropMarker?_eq_some_iff {text content : Text} :
    dropMarker? text = some content ↔
      ∃ marked, marked.map Text.fold = marker ∧ text = marked ++ content := by
  constructor
  · intro found
    unfold dropMarker? at found
    split at found
    · rename_i marked
      cases found
      exact ⟨text.take marker.length, marked, (List.take_append_drop _ _).symm⟩
    · cases found
  · rintro ⟨marked, folded, rfl⟩
    have length : marked.length = marker.length := by rw [← folded, List.length_map]
    rw [dropMarker?, ← length, List.take_left, List.drop_left, if_pos folded]

/-- The parts of a line: the directive is split off first, and the marker is looked for in what
is left. -/
theorem parse_eq (text : Text) :
    parse text = ⟨text, (dropMarker? (splitDirective text).1).getD (splitDirective text).1,
      (splitDirective text).2, (dropMarker? (splitDirective text).1).isSome⟩ := by
  rw [parse]
  dsimp only
  cases dropMarker? (splitDirective text).1 <;> rfl

/-- What stands before the directive is the content, and before that a marker or nothing. -/
theorem exists_marked (text : Text) :
    ∃ marked, (splitDirective text).1 = marked ++ (parse text).content ∧
      (marked.map Text.fold = marker ∧ (parse text).ignoreCase = true ∨
        marked = [] ∧ (parse text).ignoreCase = false ∧
          dropMarker? (parse text).content = none) := by
  rw [parse_eq]
  dsimp only
  cases found : dropMarker? (splitDirective text).1 with
  | some content =>
      obtain ⟨marked, folded, working⟩ := dropMarker?_eq_some_iff.1 found
      exact ⟨marked, working, .inl ⟨folded, rfl⟩⟩
  | none => exact ⟨[], rfl, .inr ⟨rfl, rfl, found⟩⟩

theorem text_parse (text : Text) : (parse text).text = text := by
  rw [parse_eq]

theorem directive_parse (text : Text) : (parse text).directive = (splitDirective text).2 := by
  rw [parse_eq]

theorem not_infix_directive (text : Text) : ¬separator <:+: (parse text).directive := by
  rw [directive_parse, splitDirective]
  split
  · rename_i before after found
    have absent := Text.not_infix_of_splitAtLast? separator_ne_nil found
    intro occurs
    refine absent (occurs.trans ((Text.trim_infix after).trans ?_))
    exact (List.suffix_append ['-', '>', ' '] after).isInfix
  · simpa using separator_ne_nil

/-- The parts of a text to which a separator was added. A directive that begins
with an arrow completes a separator of its own with the added blank. -/
theorem splitDirective_append_separator (text : Text) {directive : Text}
    (single : ¬separator <:+: directive) :
    splitDirective (text ++ (separator ++ directive)) =
      match ['-', '>', ' '].isPrefixOf? directive with
      | some rest => (text ++ [' ', '-', '>'], Text.trim rest)
      | none => (Text.trimEnd text, Text.trim directive) := by
  have absent := (Text.splitAtLast?_eq_none_iff separator_ne_nil).2 single
  have blank : Text.splitAtLast? separator (' ' :: directive) =
      (['-', '>', ' '].isPrefixOf? directive).map fun rest => ([], rest) := by
    rw [Text.splitAtLast?, absent]
    rfl
  have arrow : Text.splitAtLast? separator (separator ++ directive) =
      some (match ['-', '>', ' '].isPrefixOf? directive with
        | some rest => ([' ', '-', '>'], rest)
        | none => ([], directive)) := by
    change Text.splitAtLast? separator (' ' :: '-' :: '>' :: ' ' :: directive) = _
    have head : separator.isPrefixOf? (' ' :: '-' :: '>' :: ' ' :: directive) = some directive := by
      rw [List.isPrefixOf?_eq_some_iff_append_eq]
      rfl
    rw [Text.splitAtLast?, Text.splitAtLast?_cons_of_none '-' rfl,
      Text.splitAtLast?_cons_of_none '>' rfl, blank, head]
    cases ['-', '>', ' '].isPrefixOf? directive <;> rfl
  rw [splitDirective, Text.splitAtLast?_append_of_some text arrow]
  cases ['-', '>', ' '].isPrefixOf? directive with
  | none => simp
  | some rest =>
      have solid : Text.isBlank '>' = false := by decide
      have kept := Text.trimEnd_append_cons (text ++ [' ', '-']) [] solid
      simpa [Text.trimEnd] using kept

/-- The beginning of a finished rule. -/
def ruleStart : Text := [' ', ' ', '^']

/-- A separator in a text that begins as a finished rule does comes later. -/
theorem splitDirective_ruleStart (rest : Text) :
    splitDirective (ruleStart ++ rest) =
      (ruleStart ++ (splitDirective rest).1, (splitDirective rest).2) := by
  have solid : Text.isBlank '^' = false := by decide
  have passed : Text.splitAtLast? separator (ruleStart ++ rest) =
      (Text.splitAtLast? separator rest).map fun (before, after) =>
        (ruleStart ++ before, after) := by
    change Text.splitAtLast? separator (' ' :: ' ' :: '^' :: rest) = _
    rw [Text.splitAtLast?_cons_of_none _ rfl, Text.splitAtLast?_cons_of_none _ rfl,
      Text.splitAtLast?_cons_of_none _ rfl]
    cases Text.splitAtLast? separator rest <;> rfl
  rw [splitDirective, splitDirective, passed]
  cases Text.splitAtLast? separator rest with
  | none => rfl
  | some parts => exact congrArg (·, _) (Text.trimEnd_append_cons [' ', ' '] parts.1 solid)

/-- A text that begins as a finished rule does has no marker, and its content
begins the same way. -/
theorem parse_ruleStart (rest : Text) :
    parse (ruleStart ++ rest) =
      ⟨ruleStart ++ rest, ruleStart ++ (splitDirective rest).1, (splitDirective rest).2,
        false⟩ := by
  have unmarked : ∀ text, dropMarker? (ruleStart ++ text) = none := by
    intro text
    rw [dropMarker?, if_neg]
    intro same
    have first : some (Text.fold ' ') = some 'i' := congrArg List.head? same
    exact absurd first (by decide)
  rw [parse, splitDirective_ruleStart]
  dsimp only
  rw [unmarked]

end Line

end LineTemplate
