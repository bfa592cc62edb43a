import LineTemplate.Pattern.Matching
import Mathlib.Computability.Language

/-!
Contract: regular expressions that match without regard to their surroundings.

Owns:
- stretches of text between two places;
- `Pattern.language`, the texts of a regular expression without assertions, and
  that it matches exactly the stretches with such a text;
- sequences, of which every item has its own stretch.

Does not own: assertions about places.
-/

namespace LineTemplate

namespace Place

/-- A text stretches from one place to another. -/
def Spans (start : Place) (taken : Text) (stop : Place) : Prop :=
  start.after = taken ++ stop.after ∧ stop.before = taken.reverse ++ start.before

theorem spans_nil {start stop : Place} : start.Spans [] stop ↔ start = stop := by
  constructor
  · rintro ⟨after, before⟩
    cases start
    cases stop
    simp_all
  · rintro rfl
    exact ⟨rfl, rfl⟩

/-- One character is taken where a text of one character is spanned. -/
theorem exists_takes_iff {start stop : Place} (test : Char → Prop) :
    (∃ c, start.Takes c stop ∧ test c) ↔
      ∃ taken, start.Spans taken stop ∧ ∃ c, taken = [c] ∧ test c := by
  constructor
  · rintro ⟨c, takes, known⟩
    exact ⟨[c], takes, c, rfl, known⟩
  · rintro ⟨_, spans, c, rfl, known⟩
    exact ⟨c, spans, known⟩

theorem spans_append {start stop : Place} {text more : Text} :
    start.Spans (text ++ more) stop ↔
      ∃ middle : Place, start.Spans text middle ∧ middle.Spans more stop := by
  constructor
  · rintro ⟨after, before⟩
    refine ⟨⟨text.reverse ++ start.before, more ++ stop.after⟩, ⟨?_, rfl⟩, ⟨rfl, ?_⟩⟩
    · rw [after, List.append_assoc]
    · rw [before, List.reverse_append, List.append_assoc]
  · rintro ⟨middle, ⟨firstAfter, firstBefore⟩, ⟨secondAfter, secondBefore⟩⟩
    refine ⟨?_, ?_⟩
    · rw [firstAfter, secondAfter, List.append_assoc]
    · rw [secondBefore, firstBefore, List.reverse_append, List.append_assoc]

theorem spans_cons {start stop : Place} {c : Char} {text : Text} :
    start.Spans (c :: text) stop ↔
      ∃ middle : Place, start.Spans [c] middle ∧ middle.Spans text stop := by
  rw [← List.singleton_append, spans_append]

theorem spans_start_stop {text taken : Text} :
    (Place.start text).Spans taken (Place.stop text) ↔ taken = text := by
  constructor
  · rintro ⟨after, -⟩
    simpa [Place.start, Place.stop] using after.symm
  · rintro rfl
    exact ⟨by simp [Place.start, Place.stop], by simp [Place.start, Place.stop]⟩

end Place

namespace Atom

def isAssertion : Atom → Bool
  | .assertion _ => true
  | _ => false

/-- The characters that an atom stands for. -/
def Holds (meaning : PropertyMeaning) (flags : MatchFlags) : Atom → Char → Prop
  | .literal member _, c => flags.Folds (· = member) c
  | .anyChar, c => dotTakes flags c
  | .assertion _, _ => False
  | .shorthand name negated, c => Unless negated (name.holds flags.unicode c)
  | .property query negated, c => Unless negated (flags.Folds (meaning query) c)

end Atom

namespace Pattern

/-- Whether a regular expression holds no condition on a place. -/
def isAssertionFree : Pattern → Bool
  | .empty => true
  | .atom single => !single.isAssertion
  | .flags _ => true
  | .set _ _ => true
  | .repeated body _ _ _ => body.isAssertionFree
  | .group _ body => body.isAssertionFree
  | .sequence first rest => first.isAssertionFree && rest.isAssertionFree
  | .choice first rest => first.isAssertionFree && rest.isAssertionFree

/-- The texts that a regular expression without assertions matches. -/
def language (meaning : PropertyMeaning) (flags : MatchFlags) : Pattern → Language Char
  | .empty => 1
  | .atom single => {text | ∃ c, text = [c] ∧ single.Holds meaning flags c}
  | .flags _ => 1
  | .set negated inner =>
      {text | ∃ c, text = [c] ∧ Unless negated (flags.Folds (inner.Holds meaning flags) c)}
  | .repeated body least most _ =>
      {text | ∃ count, least ≤ count ∧ (∀ limit ∈ most, count ≤ limit) ∧
        text ∈ body.language meaning flags ^ count}
  | .group kind body => body.language meaning (flags.inside kind)
  | .sequence first rest =>
      first.language meaning flags * rest.language meaning (first.flagsAfter flags)
  | .choice first rest =>
      first.language meaning flags + rest.language meaning (first.flagsAfter flags)

variable {meaning : PropertyMeaning} {flags : MatchFlags}

theorem exists_spans_one {start stop : Place} :
    (∃ taken, start.Spans taken stop ∧ taken ∈ (1 : Language Char)) ↔ start = stop := by
  simp [Language.mem_one, Place.spans_nil]

theorem exists_spans_mul {first second : Language Char} {start stop : Place} :
    (∃ taken, start.Spans taken stop ∧ taken ∈ first * second) ↔
      ∃ middle : Place, (∃ left, start.Spans left middle ∧ left ∈ first) ∧
        ∃ right, middle.Spans right stop ∧ right ∈ second := by
  constructor
  · rintro ⟨taken, spans, member⟩
    obtain ⟨left, known, right, more, rfl⟩ := Language.mem_mul.1 member
    obtain ⟨middle, leftSpans, rightSpans⟩ := Place.spans_append.1 spans
    exact ⟨middle, ⟨left, leftSpans, known⟩, right, rightSpans, more⟩
  · rintro ⟨middle, ⟨left, leftSpans, known⟩, right, rightSpans, more⟩
    exact ⟨left ++ right, Place.spans_append.2 ⟨middle, leftSpans, rightSpans⟩,
      Language.append_mem_mul known more⟩

/-- A number of stretches is a stretch with a text of a power of the language. -/
theorem iterates_iff_pow {Step : Place → Place → Prop} {texts : Language Char}
    (single : ∀ start stop, Step start stop ↔ ∃ taken, start.Spans taken stop ∧ taken ∈ texts)
    (count : Nat) (start stop : Place) :
    Iterates Step count start stop ↔
      ∃ taken, start.Spans taken stop ∧ taken ∈ texts ^ count := by
  induction count generalizing start with
  | zero => rw [pow_zero, exists_spans_one, Iterates]
  | succ count inductionHypothesis =>
      simp only [pow_succ', exists_spans_mul, Iterates, single, inductionHypothesis]

/-- Without assertions, a regular expression matches the stretches with a text of its
language, wherever they are. -/
theorem passes_iff_language {pattern : Pattern} (free : pattern.isAssertionFree = true)
    (start stop : Place) :
    pattern.Passes meaning flags start stop ↔
      ∃ taken, start.Spans taken stop ∧ taken ∈ pattern.language meaning flags := by
  induction pattern generalizing flags start stop with
  | empty => exact exists_spans_one.symm
  | atom single =>
      cases single with
      | assertion condition => exact absurd free (by simp [isAssertionFree, Atom.isAssertion])
      | _ => exact Place.exists_takes_iff _
  | flags settings => exact exists_spans_one.symm
  | set negated inner => exact Place.exists_takes_iff _
  | repeated body least most greedy inductionHypothesis =>
      have single : ∀ count start stop, Iterates (body.Passes meaning flags) count start stop ↔
          ∃ taken, start.Spans taken stop ∧ taken ∈ body.language meaning flags ^ count :=
        iterates_iff_pow (inductionHypothesis free)
      simp only [Passes, language, single]
      constructor
      · rintro ⟨count, atLeast, atMost, taken, spans, power⟩
        exact ⟨taken, spans, count, atLeast, atMost, power⟩
      · rintro ⟨taken, spans, count, atLeast, atMost, power⟩
        exact ⟨count, atLeast, atMost, taken, spans, power⟩
  | group kind body inductionHypothesis => exact inductionHypothesis free start stop
  | sequence first rest firstHypothesis restHypothesis =>
      rw [isAssertionFree, Bool.and_eq_true] at free
      simp only [Passes, language, exists_spans_mul, firstHypothesis free.1,
        restHypothesis free.2]
  | choice first rest firstHypothesis restHypothesis =>
      rw [isAssertionFree, Bool.and_eq_true] at free
      simp only [Passes, language, Language.mem_add, firstHypothesis free.1,
        restHypothesis free.2, and_or_left, exists_or]

theorem matches_iff_language {pattern : Pattern} (free : pattern.isAssertionFree = true)
    (text : Text) : pattern.Matches meaning text ↔ text ∈ pattern.language meaning .initial := by
  rw [Matches, passes_iff_language free]
  constructor
  · rintro ⟨taken, spans, known⟩
    rwa [Place.spans_start_stop.1 spans] at known
  · intro known
    exact ⟨text, Place.spans_start_stop.2 rfl, known⟩

/-- Without assertions, a regular expression matches the stretches with a text that it
matches as a whole. -/
theorem passes_iff_matches {pattern : Pattern} (free : pattern.isAssertionFree = true)
    (start stop : Place) :
    pattern.Passes meaning .initial start stop ↔
      ∃ taken, start.Spans taken stop ∧ pattern.Matches meaning taken := by
  simp only [passes_iff_language free, matches_iff_language free]

/-! ### Sequences and choices -/

theorem isAssertionFree_ofItems {items : List Pattern}
    (each : ∀ item ∈ items, item.isAssertionFree = true) :
    (ofItems items).isAssertionFree = true := by
  induction items with
  | nil => rfl
  | cons item items inductionHypothesis =>
      have rest := inductionHypothesis fun other member => each other (by simp [member])
      cases items with
      | nil => exact each item (by simp)
      | cons next more =>
          rw [ofItems, isAssertionFree, each item (by simp), rest]
          rfl

theorem flagsAfter_ofItems {items : List Pattern}
    (keeps : ∀ item ∈ items, item.flagsAfter flags = flags) :
    (ofItems items).flagsAfter flags = flags := by
  induction items with
  | nil => rfl
  | cons item items inductionHypothesis =>
      have rest := inductionHypothesis fun other member => keeps other (by simp [member])
      cases items with
      | nil => exact keeps item (by simp)
      | cons next more =>
          rw [ofItems, flagsAfter, keeps item (by simp), rest]

/-- The first item of a sequence has a stretch of its own. -/
theorem passes_ofItems_cons {item : Pattern} (keeps : item.flagsAfter flags = flags)
    (items : List Pattern) (start stop : Place) :
    (ofItems (item :: items)).Passes meaning flags start stop ↔
      ∃ middle, item.Passes meaning flags start middle ∧
        (ofItems items).Passes meaning flags middle stop := by
  cases items with
  | nil =>
      constructor
      · intro passes
        exact ⟨stop, passes, rfl⟩
      · rintro ⟨_, passes, rfl⟩
        exact passes
  | cons next more => rw [ofItems, Passes, keeps]

/-- Two sequences in a row have stretches of their own. -/
theorem passes_ofItems_append {items : List Pattern}
    (keeps : ∀ item ∈ items, item.flagsAfter flags = flags) (more : List Pattern)
    (start stop : Place) :
    (ofItems (items ++ more)).Passes meaning flags start stop ↔
      ∃ middle, (ofItems items).Passes meaning flags start middle ∧
        (ofItems more).Passes meaning flags middle stop := by
  induction items generalizing start with
  | nil =>
      constructor
      · intro passes
        exact ⟨start, rfl, passes⟩
      · rintro ⟨_, rfl, passes⟩
        exact passes
  | cons item items inductionHypothesis =>
      have first := keeps item (by simp)
      have split := inductionHypothesis fun other member => keeps other (by simp [member])
      simp only [List.cons_append, passes_ofItems_cons first, split]
      constructor
      · rintro ⟨next, passes, middle, others, rest⟩
        exact ⟨middle, ⟨next, passes, others⟩, rest⟩
      · rintro ⟨middle, ⟨next, passes, others⟩, rest⟩
        exact ⟨next, passes, middle, others, rest⟩

/-- A choice matches what one of its branches does. -/
theorem passes_ofBranches {branches : List Pattern} (filled : branches ≠ [])
    (keeps : ∀ branch ∈ branches, branch.flagsAfter flags = flags) (start stop : Place) :
    (ofBranches branches).Passes meaning flags start stop ↔
      ∃ branch ∈ branches, branch.Passes meaning flags start stop := by
  induction branches with
  | nil => exact absurd rfl filled
  | cons branch branches inductionHypothesis =>
      cases branches with
      | nil => simp [ofBranches]
      | cons next more =>
          have rest := inductionHypothesis (by simp) fun other member =>
            keeps other (by simp [member])
          rw [List.exists_mem_cons_iff, ← rest, ofBranches, Passes, keeps branch (by simp)]

end Pattern

end LineTemplate
