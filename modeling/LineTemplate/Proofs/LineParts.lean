import LineTemplate.Proofs.MarkedLines
import LineTemplate.Proofs.Resemblance

/-!
Contract: what the parts of a line are.

Owns:
- the form of a line without its directive, as a regular expression, that every text has it,
  and that its marker is the one that is looked for;
- `Line.FollowsLast`, the text behind the last separator of a line;
- `Line.parse_parts`: taking a line apart never fails, and when there is a directive.

Does not own: what becomes of a line that is put together again.

Only the last separator counts. One with white space behind it hides the others: they are
content, whatever stands behind them.
-/

namespace LineTemplate

variable {meaning : PropertyMeaning}

/-! ### The form of a line -/

namespace Pattern

variable {flags : MatchFlags}

/-- Where case is ignored, the items of a text match what differs from it in case only. -/
theorem passes_exactItems_of_ignoreCase (ignores : flags.ignoreCase = true)
    (unicode : flags.unicode = true) (text : Text) (start stop : Place) :
    (ofItems (Literal.exactItems text)).Passes meaning flags start stop ↔
      ∃ taken, start.Spans taken stop ∧ taken.map Text.fold = text.map Text.fold := by
  have representative : ∀ c, flags.representative c = Text.fold c := by
    intro c
    simp [MatchFlags.representative, ignores, unicode]
  unfold Literal.exactItems
  induction text generalizing start with
  | nil =>
      constructor
      · intro same
        exact ⟨[], Place.spans_nil.mpr same, rfl⟩
      · rintro ⟨taken, spans, nothing⟩
        rw [List.map_eq_nil_iff.mp nothing] at spans
        exact Place.spans_nil.mp spans
  | cons first text inductionHypothesis =>
      have keeps : (Pattern.atom (.literal first false)).flagsAfter flags = flags := rfl
      simp only [List.map_cons, passes_ofItems_cons keeps, inductionHypothesis]
      constructor
      · rintro ⟨middle, ⟨c, takes, member, rfl, same⟩, taken, spans, folded⟩
        rw [representative, representative] at same
        exact ⟨c :: taken, Place.spans_cons.mpr ⟨middle, takes, spans⟩, by simp [same, folded]⟩
      · rintro ⟨taken, spans, folded⟩
        obtain ⟨c, rest, rfl, same, others⟩ := List.map_eq_cons_iff.mp folded
        obtain ⟨middle, takes, behind⟩ := Place.spans_cons.mp spans
        refine ⟨middle, ⟨c, takes, first, rfl, ?_⟩, rest, behind, others⟩
        rw [representative, representative, same]

/-- Any number of characters is any text, where every character passes. -/
theorem passes_anyText {item : Pattern} {test : Char → Prop}
    (single : ∀ start stop,
      item.Passes meaning flags start stop ↔ ∃ c, start.Takes c stop ∧ test c)
    (every : ∀ c, test c) (start stop : Place) :
    (Pattern.repeated item 0 none true).Passes meaning flags start stop ↔
      ∃ taken, start.Spans taken stop := by
  simp only [Passes, iterates_iff_length single]
  constructor
  · rintro ⟨-, -, -, taken, spans, -, -⟩
    exact ⟨taken, spans⟩
  · rintro ⟨taken, spans⟩
    exact ⟨taken.length, Nat.zero_le _, by simp, taken, spans, rfl, fun c _ => every c⟩

end Pattern

namespace Line

/-- A line without its directive: a marker in any case, if there is one, and the content. -/
def form : Text := "(?is)^(?P<ic>ignore_case )?(?P<line>.*)$".toList

/-- The same with a marker that is not left out. -/
def markedForm : Text := "(?is)^(?P<ic>ignore_case )(?P<line>.*)$".toList

def formFlags : FlagSettings := [(.ignoreCase, true), (.dotMatchesNewline, true)]

/-- The group of the marker. -/
def markerGroup : Pattern :=
  .group (.capture (some "ic".toList)) (.ofItems (Literal.exactItems marker))

/-- A form with any way to begin the content. -/
def formAround (beginning : Pattern) : Pattern :=
  .ofItems [.flags formFlags, .atom (.assertion .lineStart), beginning,
    .group (.capture (some "line".toList)) (.repeated (.atom .anyChar) 0 none true),
    .atom (.assertion .lineEnd)]

theorem read?_form :
    Pattern.read? form = some (formAround (.repeated markerGroup 0 (some 1) true)) := by
  decide +kernel

theorem read?_markedForm : Pattern.read? markedForm = some (formAround markerGroup) := by
  decide +kernel

/-- A text has a form if it begins as the form does: the rest is content. -/
theorem matches_formAround_iff {beginning : Pattern} {text : Text}
    (keeps : ∀ flags, beginning.flagsAfter flags = flags) :
    (formAround beginning).Matches meaning text ↔
      ∃ middle : Place, beginning.Passes meaning (MatchFlags.initial.set formFlags)
          (.start text) middle ∧
        ∃ content, middle.Spans content (.stop text) := by
  have content : ∀ start stop : Place,
      (Pattern.group (.capture (some "line".toList))
          (.repeated (.atom .anyChar) 0 none true)).Passes meaning
            (MatchFlags.initial.set formFlags) start stop ↔ ∃ taken, start.Spans taken stop := by
    apply Pattern.passes_anyText
    · exact fun _ _ => Iff.rfl
    · exact fun _ => rfl
  unfold formAround Pattern.Matches
  constructor
  · rintro ⟨_, rfl, _, ⟨rfl, -⟩, middle, passes, last, rest, rfl, -⟩
    rw [keeps] at rest
    exact ⟨middle, passes, (content _ _).mp rest⟩
  · rintro ⟨middle, passes, rest⟩
    refine ⟨_, rfl, _, ⟨rfl, rfl⟩, middle, passes, .stop text, ?_, rfl, ?_⟩
    · rw [keeps]
      exact (content _ _).mpr rest
    · simp [Assertion.holds, Place.endsLine, Place.stop]

/-- Every text has the form of a line. -/
theorem form_matches (text : Text) : Pattern.WrittenMatches meaning form text := by
  refine ⟨_, read?_form, (matches_formAround_iff fun _ => rfl).mpr ?_⟩
  exact ⟨.start text, ⟨0, Nat.le_refl 0, by simp, rfl⟩, text, Place.spans_start_stop.mpr rfl⟩

/-- The marker of the form takes part where the marker of a line is found. -/
theorem markedForm_matches_iff {text : Text} :
    Pattern.WrittenMatches meaning markedForm text ↔ (dropMarker? text).isSome = true := by
  have plain : marker.map Text.fold = marker := by decide
  have group : ∀ start stop : Place,
      markerGroup.Passes meaning (MatchFlags.initial.set formFlags) start stop ↔
        ∃ marked, start.Spans marked stop ∧ marked.map Text.fold = marker := by
    intro start stop
    have items : markerGroup.Passes meaning (MatchFlags.initial.set formFlags) start stop ↔ _ :=
      Pattern.passes_exactItems_of_ignoreCase rfl rfl marker start stop
    rwa [plain] at items
  have keeps : ∀ flags, markerGroup.flagsAfter flags = flags := fun _ => rfl
  simp only [Pattern.WrittenMatches, read?_markedForm, Option.some.injEq, exists_eq_left',
    matches_formAround_iff keeps, group, Option.isSome_iff_exists,
    dropMarker?_eq_some_iff]
  constructor
  · rintro ⟨middle, ⟨marked, spans, folded⟩, content, behind⟩
    have whole := Place.spans_append.mpr ⟨middle, spans, behind⟩
    exact ⟨content, marked, folded, (Place.spans_start_stop.mp whole).symm⟩
  · rintro ⟨content, marked, folded, rfl⟩
    obtain ⟨middle, spans, behind⟩ :=
      Place.spans_append.mp (Place.spans_start_stop.mpr (rfl : marked ++ content = _))
    exact ⟨middle, ⟨marked, spans, folded⟩, content, behind⟩

end Line

/-! ### The last separator -/

namespace Text

theorem trim_eq_nil_iff {text : Text} : trim text = [] ↔ isAllBlank text = true := by
  rw [isAllBlank, List.all_eq_true]
  constructor
  · intro nothing c member
    have inside := List.rdropWhile_eq_nil_iff.mp nothing
    rw [← List.takeWhile_append_dropWhile (p := isBlank) (l := text)] at member
    rcases List.mem_append.mp member with front | behind
    · exact List.mem_takeWhile_imp front
    · exact inside c behind
  · intro blank
    have front : trimStart text = [] := List.dropWhile_eq_nil_iff.mpr blank
    rw [trim, front]
    rfl

end Text

namespace Line

/-- What stands behind the last separator of a text. -/
structure FollowsLast (text after : Text) : Prop where
  ends : separator ++ after <:+ text
  last : ¬separator <:+: (separator ++ after).tail

theorem followsLast_iff {text after : Text} :
    FollowsLast text after ↔
      ∃ before, Text.splitAtLast? separator text = some (before, after) := by
  constructor
  · rintro ⟨⟨before, rfl⟩, last⟩
    refine ⟨before, ?_⟩
    have found := Text.splitAtLast?_separator_append separator_ne_nil last
    rw [Text.splitAtLast?_append_of_some before found, List.append_nil]
  · rintro ⟨before, found⟩
    refine ⟨⟨before, ?_⟩, Text.not_infix_of_splitAtLast? separator_ne_nil found⟩
    exact (Text.eq_append_of_splitAtLast? found).symm

/-- White space holds no separator, so one with only white space behind it is the last. -/
theorem followsLast_of_isAllBlank {text after : Text} (ends : separator ++ after <:+ text)
    (blank : Text.isAllBlank after = true) : FollowsLast text after := by
  refine ⟨ends, ?_⟩
  rw [Text.isAllBlank, List.all_eq_true] at blank
  have plain : '-' ∉ '>' :: ' ' :: after := by
    have solid : Text.isBlank '-' = false := by decide
    simp only [List.mem_cons, not_or]
    refine ⟨by decide, by decide, fun member => ?_⟩
    rw [blank '-' member] at solid
    cases solid
  intro occurs
  change separator <:+: '-' :: '>' :: ' ' :: after at occurs
  rcases List.infix_cons_iff.mp occurs with begins | later
  · obtain ⟨rest, same⟩ := begins
    cases same
  · exact plain (later.subset (by decide))

theorem hasDirective_iff_followsLast {text : Text} :
    (parse text).hasDirective = true ↔
      ∃ after, FollowsLast text after ∧ Text.isAllBlank after = false := by
  rw [hasDirective, directive_parse, splitDirective]
  cases found : Text.splitAtLast? separator text with
  | none => simp [followsLast_iff, found]
  | some parts =>
      obtain ⟨before, after⟩ := parts
      have filled : (!(Text.trim after).isEmpty) = true ↔ Text.isAllBlank after = false := by
        rw [Bool.not_eq_true', List.isEmpty_eq_false_iff, ne_eq, Text.trim_eq_nil_iff,
          Bool.not_eq_true]
      simp [followsLast_iff, found, filled]

/-- Taking a line apart does not fail: what stands before the directive has the form of a line,
and the flag is set if the marker of the form takes part. There is a directive if there is
more than white space behind the last separator. To have that behind any separator is not
enough: it is a directive unless another separator has only white space behind it. -/
theorem parse_parts (meaning : PropertyMeaning) (text : Text) :
    Pattern.WrittenMatches meaning form (splitDirective text).1 ∧
      ((parse text).ignoreCase = true ↔
        Pattern.WrittenMatches meaning markedForm (splitDirective text).1) ∧
      ((parse text).hasDirective = true ↔
        ∃ after, FollowsLast text after ∧ Text.isAllBlank after = false) ∧
      ((parse text).hasDirective = true ↔
        (∃ after, separator ++ after <:+ text ∧ Text.isAllBlank after = false) ∧
          ¬∃ after, separator ++ after <:+ text ∧ Text.isAllBlank after = true) := by
  refine ⟨form_matches _, ?_, hasDirective_iff_followsLast, ?_⟩
  · rw [markedForm_matches_iff, parse_eq]
  rw [hasDirective_iff_followsLast]
  constructor
  · rintro ⟨after, follows, filled⟩
    refine ⟨⟨after, follows.ends, filled⟩, ?_⟩
    rintro ⟨other, ends, blank⟩
    obtain ⟨_, split⟩ := followsLast_iff.mp follows
    obtain ⟨_, again⟩ := followsLast_iff.mp (followsLast_of_isAllBlank ends blank)
    rw [split] at again
    cases again
    rw [blank] at filled
    cases filled
  · rintro ⟨⟨after, ends, -⟩, filled⟩
    have separated : separator <:+: text := (List.prefix_append _ _).isInfix.trans ends.isInfix
    have found := mt (Text.splitAtLast?_eq_none_iff separator_ne_nil).mp (not_not.mpr separated)
    obtain ⟨⟨before, last⟩, split⟩ := Option.ne_none_iff_exists'.mp found
    have follows := followsLast_iff.mpr ⟨before, split⟩
    refine ⟨last, follows, ?_⟩
    rw [← Bool.not_eq_true]
    intro blank
    exact filled ⟨last, follows.ends, blank⟩

/-- Text behind a separator is no directive if a later separator ends the line. -/
theorem text_behind_first_separator_no_directive :
    (separator ++ "b -> ".toList <:+ "a -> b -> ".toList ∧
        Text.isAllBlank "b -> ".toList = false) ∧
      (parse "a -> b -> ".toList).hasDirective = false ∧
      (parse "a -> b -> ".toList).content = "a -> b".toList := by
  decide

end Line

end LineTemplate
