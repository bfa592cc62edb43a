import LineTemplate.Proofs.Characters
import LineTemplate.Proofs.Separation

/-!
Contract: what the marker in front of a line changes.

Owns:
- how a line is taken apart with a marker in front of it;
- `Line.HidesMarker`, the lines whose separator takes the white space from a marker before it;
- `Line.parse_marker_append_iff`: for all others, the marker sets the flag and nothing else.

Does not own: what the flag does to a rule.

The directive is split off first, and what stands before it is trimmed. So the last space of
the marker may be gone before the marker is looked for.
-/

namespace LineTemplate

namespace Text

/-- Text without the first character of a separator is passed over. -/
theorem splitAtLast?_append_of_not_mem {first : Char} {rest front : Text} (text : Text)
    (disjoint : first ∉ front) :
    splitAtLast? (first :: rest) (front ++ text) =
      (splitAtLast? (first :: rest) text).map fun (before, after) => (front ++ before, after) := by
  induction front with
  | nil => simp
  | cons head front inductionHypothesis =>
      have other : first ≠ head := fun same => disjoint (same ▸ List.mem_cons_self)
      have passed : (first :: rest).isPrefixOf? (head :: (front ++ text)) = none := by
        simp [List.isPrefixOf?, other]
      rw [List.cons_append, splitAtLast?_cons_of_none head passed,
        inductionHypothesis (List.not_mem_of_not_mem_cons disjoint), Option.map_map]
      rfl

theorem isAllBlank_trimEnd_iff {text : Text} :
    isAllBlank (trimEnd text) = true ↔ trimEnd text = [] := by
  constructor
  · exact fun blank => eq_nil_of_isAllBlank blank (trimEnd_trimEnd text)
  · intro nothing
    rw [nothing]
    rfl

end Text

namespace Line

/-- The marker without the space at its end. -/
def bareMarker : Text := "ignore_case".toList

/-- In front of such a line, the marker loses its space to a separator: only white space
stands between them, or the line begins with an arrow to which the space belongs. -/
def HidesMarker (text : Text) : Prop :=
  (separator <:+: text ∧ (parse text).isBlank = true) ∨
    (¬separator <:+: text ∧ "-> ".toList <+: text)

instance (text : Text) : Decidable (HidesMarker text) :=
  inferInstanceAs (Decidable ((_ ∧ _) ∨ (_ ∧ _)))

/-! ### The marker -/

theorem dropMarker?_marker_append (text : Text) : dropMarker? (marker ++ text) = some text :=
  dropMarker?_eq_some_iff.2 ⟨marker, by decide, rfl⟩

/-- The space of a marker is written as it is. -/
theorem exists_bare_of_map_fold {marked : Text} (folded : marked.map Text.fold = marker) :
    ∃ bare, marked = bare ++ [' '] := by
  have spaced : marker = bareMarker ++ [' '] := by decide
  rw [spaced, List.map_eq_append_iff] at folded
  obtain ⟨bare, last, rfl, -, folds⟩ := folded
  rw [List.map_eq_singleton_iff] at folds
  obtain ⟨c, rfl, space⟩ := folds
  exact ⟨bare, by rw [Text.eq_space_of_fold space]⟩

/-- A text without a marker has no beginning with one. -/
theorem dropMarker?_of_prefix {text front : Text} (begins : front <+: text)
    (unmarked : dropMarker? text = none) : dropMarker? front = none := by
  by_contra marked
  obtain ⟨content, marked⟩ := Option.ne_none_iff_exists'.1 marked
  obtain ⟨rest, rfl⟩ := begins
  obtain ⟨first, folded, rfl⟩ := dropMarker?_eq_some_iff.1 marked
  have longer := dropMarker?_eq_some_iff.2 ⟨first, folded, List.append_assoc _ content rest⟩
  rw [unmarked] at longer
  cases longer

theorem parse_of_unmarked {text : Text} (unmarked : dropMarker? text = none) :
    parse text = ⟨text, (splitDirective text).1, (splitDirective text).2, false⟩ := by
  rw [parse_eq, dropMarker?_of_prefix (splitDirective_begins text) unmarked]
  rfl

/-! ### The separator behind the marker -/

theorem trimEnd_marker_append (text : Text) :
    Text.trimEnd (marker ++ text) =
      if Text.trimEnd text = [] then bareMarker else marker ++ Text.trimEnd text := by
  have solid : Text.isBlank 'e' = false := by decide
  have blank : Text.isBlank ' ' = true := by decide
  calc Text.trimEnd (marker ++ text)
      = Text.trimEnd ("ignore_cas".toList ++ 'e' :: ' ' :: text) := rfl
    _ = "ignore_cas".toList ++ 'e' :: Text.trimEnd (' ' :: text) :=
        Text.trimEnd_append_cons _ _ solid
    _ = _ := by
        rw [Text.trimEnd_cons]
        by_cases nothing : Text.trimEnd text = []
        · rw [if_pos ⟨nothing, blank⟩, if_pos nothing]
          rfl
        · rw [if_neg fun both => nothing both.1, if_neg nothing]
          rfl

/-- Where a line has a separator, its last one stays that with a marker in front. -/
theorem splitDirective_marker_append_of_some {text before after : Text}
    (found : Text.splitAtLast? separator text = some (before, after)) :
    splitDirective (marker ++ text) = (Text.trimEnd (marker ++ before), Text.trim after) := by
  rw [splitDirective, Text.splitAtLast?_append_of_some marker found]

/-- Where it has none, the space of the marker may begin one. -/
theorem splitDirective_marker_append_of_none {text : Text}
    (found : Text.splitAtLast? separator text = none) :
    splitDirective (marker ++ text) =
      match "-> ".toList.isPrefixOf? text with
      | some rest => (bareMarker, Text.trim rest)
      | none => (marker ++ text, []) := by
  have space : Text.splitAtLast? separator (' ' :: text) =
      ("-> ".toList.isPrefixOf? text).map fun rest => ([], rest) := by
    rw [Text.splitAtLast?, found]
    rfl
  have passed : Text.splitAtLast? separator (bareMarker ++ ' ' :: text) =
      (Text.splitAtLast? separator (' ' :: text)).map fun (before, after) =>
        (bareMarker ++ before, after) :=
    Text.splitAtLast?_append_of_not_mem (' ' :: text) (by decide)
  have kept : Text.trimEnd bareMarker = bareMarker := by decide
  change splitDirective (bareMarker ++ ' ' :: text) = _
  rw [splitDirective, passed, space]
  cases "-> ".toList.isPrefixOf? text with
  | none => rfl
  | some rest => simp [kept]

/-! ### Marked lines -/

section Marked

variable {text : Text} (unmarked : dropMarker? text = none)

include unmarked

theorem hidesMarker_iff_of_some {before after : Text}
    (found : Text.splitAtLast? separator text = some (before, after)) :
    HidesMarker text ↔ Text.trimEnd before = [] := by
  have separated : separator <:+: text := by
    by_contra absent
    rw [(Text.splitAtLast?_eq_none_iff separator_ne_nil).mpr absent] at found
    cases found
  have content : (parse text).content = Text.trimEnd before := by
    rw [parse_of_unmarked unmarked, splitDirective, found]
  rw [HidesMarker, isBlank, content, Text.isAllBlank_trimEnd_iff]
  simp [separated]

/-- A marker that is hidden is left in the content, without its space. -/
theorem splitDirective_marker_append_of_hidesMarker (hidden : HidesMarker text) :
    (splitDirective (marker ++ text)).1 = bareMarker := by
  cases found : Text.splitAtLast? separator text with
  | some parts =>
      have nothing := (hidesMarker_iff_of_some unmarked found).mp hidden
      rw [splitDirective_marker_append_of_some found, trimEnd_marker_append, if_pos nothing]
  | none =>
      have absent := (Text.splitAtLast?_eq_none_iff separator_ne_nil).mp found
      obtain ⟨separated, -⟩ | ⟨-, rest, rfl⟩ := hidden
      · exact absurd separated absent
      · rw [splitDirective_marker_append_of_none found]
        rfl

theorem splitDirective_marker_append_of_not_hidesMarker (kept : ¬HidesMarker text) :
    splitDirective (marker ++ text) =
      (marker ++ (splitDirective text).1, (splitDirective text).2) := by
  cases found : Text.splitAtLast? separator text with
  | some parts =>
      have filled := mt (hidesMarker_iff_of_some unmarked found).mpr kept
      rw [splitDirective_marker_append_of_some found, trimEnd_marker_append, if_neg filled,
        splitDirective, found]
  | none =>
      have absent := (Text.splitAtLast?_eq_none_iff separator_ne_nil).mp found
      have noArrow : "-> ".toList.isPrefixOf? text = none := by
        rw [Option.eq_none_iff_forall_ne_some]
        intro rest begins
        rw [List.isPrefixOf?_eq_some_iff_append_eq] at begins
        exact kept (.inr ⟨absent, rest, begins⟩)
      rw [splitDirective_marker_append_of_none found, noArrow, splitDirective, found]

theorem parse_marker_append_of_hidesMarker (hidden : HidesMarker text) :
    (parse (marker ++ text)).content = bareMarker ∧
      (parse (marker ++ text)).ignoreCase = false := by
  have unread : dropMarker? bareMarker = none := by decide
  have working := splitDirective_marker_append_of_hidesMarker unmarked hidden
  rw [parse]
  dsimp only
  rw [working, unread]
  exact ⟨rfl, rfl⟩

theorem parse_marker_append_of_not_hidesMarker (kept : ¬HidesMarker text) :
    parse (marker ++ text) =
      ⟨marker ++ text, (parse text).content, (parse text).directive, true⟩ := by
  rw [parse, splitDirective_marker_append_of_not_hidesMarker unmarked kept]
  dsimp only
  rw [dropMarker?_marker_append, parse_of_unmarked unmarked]

/-- White space is no arrow, so a blank line hides a marker only behind a separator. -/
theorem not_hidesMarker_of_isBlank (blank : (parse text).isBlank = true)
    (absent : ¬separator <:+: text) : ¬HidesMarker text := by
  rintro (⟨separated, -⟩ | ⟨-, rest, rfl⟩)
  · exact absent separated
  · have solid : Text.isBlank '-' = false := by decide
    rw [isBlank, parse_of_unmarked unmarked, splitDirective_of_unseparated absent,
      Text.isAllBlank, List.all_eq_true] at blank
    rw [blank '-' (by simp)] at solid
    cases solid

/-- The marker sets the flag of a line and changes neither its content nor its directive,
exactly if the line does not hide it. A hidden marker is content and sets no flag. -/
theorem parse_marker_append_iff :
    (parse text).ignoreCase = false ∧
      (parse (marker ++ text) =
          ⟨marker ++ text, (parse text).content, (parse text).directive, true⟩ ↔
        ¬HidesMarker text) ∧
      (HidesMarker text → (parse (marker ++ text)).content = bareMarker ∧
        (parse (marker ++ text)).ignoreCase = false) ∧
      ((parse text).isBlank = true →
        ((parse (marker ++ text)).isBlank = true ↔ ¬separator <:+: text)) := by
  have hides := parse_marker_append_of_hidesMarker unmarked
  have keeps := parse_marker_append_of_not_hidesMarker unmarked
  refine ⟨?_, ⟨fun same hidden => ?_, keeps⟩, hides, fun blank => ⟨fun still separated => ?_, ?_⟩⟩
  · rw [parse_of_unmarked unmarked]
  · have unset := (hides hidden).2
    rw [same] at unset
    cases unset
  · rw [isBlank, (hides (.inl ⟨separated, blank⟩)).1] at still
    exact absurd still (by decide)
  · intro absent
    rw [isBlank, keeps (not_hidesMarker_of_isBlank unmarked blank absent)]
    exact blank

end Marked

/-- The marker may stand before an arrow, if a separator comes later. -/
theorem parse_marker_append_two_arrows :
    dropMarker? "-> a -> Next".toList = none ∧
      parse "ignore_case -> a -> Next".toList =
        ⟨"ignore_case -> a -> Next".toList, "-> a".toList, "Next".toList, true⟩ := by
  have unmarked : dropMarker? "-> a -> Next".toList = none := by decide
  have kept : ¬HidesMarker "-> a -> Next".toList := by decide
  exact ⟨unmarked, (parse_marker_append_iff unmarked).2.1.mpr kept⟩

/-- The marker right before an arrow is content, and so is one with only white space before
the separator: the line was blank without it. -/
theorem marker_hidden_by_separator :
    (dropMarker? "-> Record".toList = none ∧
      parse "-> Record".toList = ⟨"-> Record".toList, "-> Record".toList, [], false⟩ ∧
      parse (marker ++ "-> Record".toList) =
        ⟨"ignore_case -> Record".toList, "ignore_case".toList, "Record".toList, false⟩) ∧
      (dropMarker? "  -> Record".toList = none ∧
        (parse "  -> Record".toList).isBlank = true ∧
        (parse (marker ++ "  -> Record".toList)).isBlank = false) := by
  decide

end Line

end LineTemplate
