import LineTemplate.Pattern.Acceptance

/-!
Contract: what theorems ask of a judge of regular expressions.

Owns:
- `Pattern.IsValid`, the texts that are regular expressions;
- the laws that a judge may obey: it accepts regular expressions only, it accepts with one
  dollar sign what it accepts with two, it refuses regular expressions for their size only;
- that the built-in judge obeys the first and the last of them.

Does not own: what the size of a regular expression is. The laws leave it open, and so do
the theorems that rest on them.
-/

namespace LineTemplate

/-- A text is the written form of a regular expression. -/
def Pattern.IsValid (text : Text) : Prop :=
  ∃ pattern, read? text = some pattern ∧ pattern.isProper = true

namespace PatternJudge

/-- The judge accepts regular expressions only. -/
def AcceptsValidOnly (judge : PatternJudge) : Prop :=
  ∀ text, judge.accepts text = true → Pattern.IsValid text

/-- The judge accepts with one dollar sign at its end what it accepts with two. -/
def AcceptsShortened (judge : PatternJudge) : Prop :=
  ∀ text, judge.accepts (text ++ ['$', '$']) = true → judge.accepts (text ++ ['$']) = true

/-- The judge refuses a regular expression only if it does not fit, whatever fits, and then
says that it is too large. -/
structure ChecksSize (judge : PatternJudge) (Fits : Pattern → Prop) : Prop where
  accepts : ∀ {text : Text} {pattern : Pattern}, Pattern.read? text = some pattern →
    pattern.isProper = true → Fits pattern → judge text = none
  refuses : ∀ {text : Text} {pattern : Pattern}, Pattern.read? text = some pattern →
    pattern.isProper = true → ¬Fits pattern →
      judge text = some Pattern.Refusal.tooLarge.message

theorem ChecksSize.cases {judge : PatternJudge} {Fits : Pattern → Prop}
    (sized : judge.ChecksSize Fits) {text : Text} {pattern : Pattern}
    (read : Pattern.read? text = some pattern) (proper : pattern.isProper = true) :
    Fits pattern ∧ judge text = none ∨
      ¬Fits pattern ∧ judge text = some Pattern.Refusal.tooLarge.message := by
  by_cases fits : Fits pattern
  · exact .inl ⟨fits, sized.accepts read proper fits⟩
  · exact .inr ⟨fits, sized.refuses read proper fits⟩

end PatternJudge

/-! ### The built-in judge -/

namespace Pattern

theorem accepts_iff {text : Text} :
    judge.accepts text = true ↔
      ∃ pattern, read? text = some pattern ∧ pattern.isProper = true ∧
        pattern.weight true ≤ weightLimit := by
  have unrefused : judge.accepts text = true ↔ refusal? text = none := by
    simp [PatternJudge.accepts, judge]
  rw [unrefused, refusal?]
  cases read? text with
  | none => simp
  | some pattern =>
      by_cases proper : pattern.isProper = true
      · simp [proper]
      · simp [proper]

theorem acceptsValidOnly_judge : judge.AcceptsValidOnly := by
  intro text accepted
  obtain ⟨pattern, read, proper, -⟩ := accepts_iff.1 accepted
  exact ⟨pattern, read, proper⟩

theorem checksSize_judge : judge.ChecksSize fun pattern => pattern.weight true ≤ weightLimit where
  accepts read proper light := by
    rw [judge, refusal?, read]
    simp [proper, light]
  refuses read proper heavy := by
    rw [judge, refusal?, read]
    simp [proper, Nat.not_le.1 heavy]

end Pattern

end LineTemplate
