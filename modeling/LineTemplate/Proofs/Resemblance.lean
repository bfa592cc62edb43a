import LineTemplate.Annotation.Literal.Decoding
import LineTemplate.Proofs.ExpandedItems
import Mathlib.Data.List.TakeWhile

/-!
Contract: what the items of literal text match.

Owns:
- the ways in which a sample resembles a literal text, read from its beginning;
- that the items of literal text match the texts that resemble it, and those of an
  alternative nothing but itself.

Does not own: calls.
-/

namespace LineTemplate

variable {meaning : PropertyMeaning}

/-! ### Resemblance, read from the beginning -/

namespace Literal

theorem resembles_nil_iff {sample : Text} : Resembles [] sample ↔ sample = [] := by
  constructor
  · intro resembles
    generalize same : ([] : Text) = text at resembles
    cases resembles with
    | nil => rfl
    | char solid resembles => cases same
    | run nonempty blank whole stands resembles =>
        exact absurd (List.append_eq_nil_iff.1 same.symm).1 nonempty
  · rintro rfl
    exact .nil

theorem resembles_cons_of_solid {c : Char} {rest sample : Text}
    (solid : Text.isBlank c = false) :
    Resembles (c :: rest) sample ↔ ∃ more, sample = c :: more ∧ Resembles rest more := by
  constructor
  · intro resembles
    generalize same : c :: rest = text at resembles
    cases resembles with
    | nil => cases same
    | @char other remaining sample _ resembles =>
        cases same
        exact ⟨sample, rfl, resembles⟩
    | @run run other remaining sample nonempty blank whole stands resembles =>
        cases run with
        | nil => exact absurd rfl nonempty
        | cons first run =>
            cases same
            rw [blank c (by simp)] at solid
            exact absurd solid (by decide)
  · rintro ⟨more, rfl, resembles⟩
    exact .char (by simp [solid]) resembles

/-- White space before a solid character is taken whole, and nothing else is. -/
theorem takeWhile_dropWhile_run {run rest : Text} (inside : ∀ c ∈ run, Text.isBlank c = true)
    (whole : ∀ c, rest.head? = some c → ¬Text.isBlank c) :
    (run ++ rest).takeWhile Text.isBlank = run ∧ (run ++ rest).dropWhile Text.isBlank = rest := by
  rw [List.takeWhile_append_of_pos inside, List.dropWhile_append_of_pos inside]
  cases rest with
  | nil => simp
  | cons c rest => simp [whole c rfl]

/-- A run of white space is resembled as a whole. -/
theorem resembles_cons_of_blank {c : Char} {rest sample : Text} (blank : Text.isBlank c = true) :
    Resembles (c :: rest) sample ↔
      ∃ other more, sample = other ++ more ∧
        RunResembles (c :: rest.takeWhile Text.isBlank) other ∧
          Resembles (rest.dropWhile Text.isBlank) more := by
  constructor
  · intro resembles
    -- The run is a variable of its own: only taken apart does it begin with `c`.
    generalize same : c :: rest = text at resembles
    cases resembles with
    | nil => cases same
    | char solid resembles =>
        cases same
        exact absurd blank solid
    | @run run other remaining sample nonempty allBlank whole stands resembles =>
        cases run with
        | nil => exact absurd rfl nonempty
        | cons first run =>
            cases same
            have inside : ∀ c ∈ run, Text.isBlank c = true := fun c member =>
              allBlank c (by simp [member])
            obtain ⟨taken, left⟩ := takeWhile_dropWhile_run inside whole
            refine ⟨other, sample, rfl, ?_, ?_⟩
            · change RunResembles (c :: (run ++ remaining).takeWhile Text.isBlank) other
              rw [taken]
              exact stands
            · change Resembles ((run ++ remaining).dropWhile Text.isBlank) sample
              rw [left]
              exact resembles
  · rintro ⟨other, more, rfl, stands, resembles⟩
    have whole := Resembles.run (by simp) (fun d member => ?_) (fun d first => ?_) stands resembles
    · rwa [List.cons_append, List.takeWhile_append_dropWhile] at whole
    · rcases List.mem_cons.1 member with rfl | inside
      · exact blank
      · exact List.mem_takeWhile_imp inside
    · have solid := List.head?_dropWhile_not Text.isBlank rest
      rw [first] at solid
      simpa using solid

end Literal

/-! ### What items match -/

namespace Pattern

theorem passes_literal {c : Char} {start stop : Place} :
    (Pattern.atom (.literal c false)).Passes meaning .initial start stop ↔
      start.Spans [c] stop := by
  constructor
  · rintro ⟨d, takes, member, rfl, same⟩
    cases same
    exact takes
  · intro spans
    exact ⟨c, spans, c, rfl, rfl⟩

/-- A number of stretches of one character is a stretch of as many characters. -/
theorem iterates_iff_length {Step : Place → Place → Prop} {test : Char → Prop}
    (single : ∀ start stop, Step start stop ↔ ∃ c, start.Takes c stop ∧ test c) (count : Nat)
    (start stop : Place) :
    Iterates Step count start stop ↔
      ∃ taken, start.Spans taken stop ∧ taken.length = count ∧ ∀ c ∈ taken, test c := by
  induction count generalizing start with
  | zero =>
      constructor
      · rintro rfl
        exact ⟨[], Place.spans_nil.2 rfl, rfl, by simp⟩
      · rintro ⟨taken, spans, empty, -⟩
        rw [List.length_eq_zero_iff.1 empty] at spans
        exact Place.spans_nil.1 spans
  | succ count inductionHypothesis =>
      constructor
      · rintro ⟨middle, step, rest⟩
        obtain ⟨c, takes, passed⟩ := (single start middle).1 step
        obtain ⟨taken, spans, length, others⟩ := (inductionHypothesis middle).1 rest
        refine ⟨c :: taken, Place.spans_cons.2 ⟨middle, takes, spans⟩, by simp [length], ?_⟩
        rw [List.forall_mem_cons]
        exact ⟨passed, others⟩
      · rintro ⟨taken, spans, length, passed⟩
        cases taken with
        | nil => cases length
        | cons c taken =>
            rw [List.forall_mem_cons] at passed
            obtain ⟨middle, takes, rest⟩ := Place.spans_cons.1 spans
            exact ⟨middle, (single start middle).2 ⟨c, takes, passed.1⟩,
              (inductionHypothesis middle).2 ⟨taken, rest, Nat.succ.inj length, passed.2⟩⟩

/-- One or more characters that pass a test. -/
theorem passes_plus {item : Pattern} {flags : MatchFlags} {test : Char → Prop}
    (single : ∀ start stop,
      item.Passes meaning flags start stop ↔ ∃ c, start.Takes c stop ∧ test c)
    {start stop : Place} :
    (Pattern.repeated item 1 none true).Passes meaning flags start stop ↔
      ∃ taken, start.Spans taken stop ∧ taken ≠ [] ∧ ∀ c ∈ taken, test c := by
  simp only [Passes, iterates_iff_length single]
  constructor
  · rintro ⟨count, atLeast, -, taken, spans, length, passed⟩
    refine ⟨taken, spans, ?_, passed⟩
    rintro rfl
    rw [← length] at atLeast
    exact absurd atLeast (by decide)
  · rintro ⟨taken, spans, filled, passed⟩
    exact ⟨taken.length, List.length_pos_iff.2 filled, by simp, taken, spans, rfl, passed⟩

end Pattern

namespace Literal

/-- The item of a run of white space matches the runs that resemble it. -/
theorem passes_runUnit {run : Text} {start stop : Place} :
    (unitItem (runUnit run)).Passes meaning .initial start stop ↔
      ∃ other, start.Spans other stop ∧ RunResembles run other := by
  unfold runUnit RunResembles
  by_cases one : run = [' ']
  · simp only [one, if_pos, unitItem, Pattern.passes_literal]
    constructor
    · intro spans
      exact ⟨[' '], spans, by simp, rfl⟩
    · rintro ⟨_, spans, -, rfl⟩
      exact spans
  · rw [if_neg one]
    by_cases spaces : run.all fun c => c = ' '
    · have single : ∀ start stop : Place,
          (Pattern.atom (.literal ' ' false)).Passes meaning .initial start stop ↔
            ∃ c, start.Takes c stop ∧ c = ' ' := by
        intro start stop
        rw [Pattern.passes_literal]
        constructor
        · exact fun spans => ⟨' ', spans, rfl⟩
        · rintro ⟨_, takes, rfl⟩
          exact takes
      simp only [one, spaces, if_true, if_false, unitItem, Pattern.passes_plus single]
    · have single : ∀ start stop : Place,
          (Pattern.atom (.shorthand .space false)).Passes meaning .initial start stop ↔
            ∃ c, start.Takes c stop ∧ Text.isBlank c = true := fun start stop => Iff.rfl
      simp only [one, spaces, Bool.false_eq_true, if_false, unitItem, Pattern.passes_plus single]

theorem flagsAfter_unitItem (unit : LiteralUnit) (flags : MatchFlags) :
    (unitItem unit).flagsAfter flags = flags := by
  cases unit <;> rfl

/-- The items of literal text match the texts that resemble it. -/
theorem passes_items (text : Text) (start stop : Place) :
    (Pattern.ofItems (items text)).Passes meaning .initial start stop ↔
      ∃ taken, start.Spans taken stop ∧ Resembles text taken := by
  unfold items
  fun_induction units text generalizing start with
  | case1 =>
      simp only [List.map_nil, Pattern.ofItems, Pattern.Passes, resembles_nil_iff]
      constructor
      · intro same
        exact ⟨[], Place.spans_nil.2 same, rfl⟩
      · rintro ⟨_, spans, rfl⟩
        exact Place.spans_nil.1 spans
  | case2 first rest blank inductionHypothesis =>
      simp only [List.map_cons, Pattern.passes_ofItems_cons (flagsAfter_unitItem _ _),
        passes_runUnit, inductionHypothesis, resembles_cons_of_blank blank]
      constructor
      · rintro ⟨middle, ⟨other, otherSpans, stands⟩, more, moreSpans, resembles⟩
        exact ⟨other ++ more, Place.spans_append.2 ⟨middle, otherSpans, moreSpans⟩,
          other, more, rfl, stands, resembles⟩
      · rintro ⟨_, spans, other, more, rfl, stands, resembles⟩
        obtain ⟨middle, otherSpans, moreSpans⟩ := Place.spans_append.1 spans
        exact ⟨middle, ⟨other, otherSpans, stands⟩, more, moreSpans, resembles⟩
  | case3 first rest solid inductionHypothesis =>
      rw [Bool.not_eq_true] at solid
      simp only [List.map_cons, Pattern.passes_ofItems_cons (flagsAfter_unitItem _ _),
        inductionHypothesis, resembles_cons_of_solid solid]
      constructor
      · rintro ⟨middle, firstPasses, more, moreSpans, resembles⟩
        exact ⟨first :: more,
          Place.spans_cons.2 ⟨middle, Pattern.passes_literal.1 firstPasses, moreSpans⟩,
          more, rfl, resembles⟩
      · rintro ⟨_, spans, more, rfl, resembles⟩
        obtain ⟨middle, firstSpans, moreSpans⟩ := Place.spans_cons.1 spans
        exact ⟨middle, Pattern.passes_literal.2 firstSpans, more, moreSpans, resembles⟩

/-- The items of an alternative match nothing but the alternative. -/
theorem passes_exactItems (text : Text) (start stop : Place) :
    (Pattern.ofItems (exactItems text)).Passes meaning .initial start stop ↔
      start.Spans text stop := by
  unfold exactItems
  induction text generalizing start with
  | nil => exact Place.spans_nil.symm
  | cons first text inductionHypothesis =>
      rw [List.map_cons, Pattern.passes_ofItems_cons rfl, Place.spans_cons]
      simp only [Pattern.passes_literal, inductionHypothesis]

end Literal

end LineTemplate
