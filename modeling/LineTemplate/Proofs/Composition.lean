import LineTemplate.Proofs.Expansion

/-!
Contract: properties that texts keep when they are put together.

Owns:
- `Composes`, the properties that two texts in a row have if each of them has;
- that escaped and literal text and the pattern of a call have them if their pieces do.

Does not own: any of these properties.
-/

namespace LineTemplate

/-- A property of the empty text that is kept when texts are put together. -/
structure Composes (property : Text → Prop) : Prop where
  nil : property []
  append : ∀ {text more : Text}, property text → property more → property (text ++ more)

namespace Composes

variable {property : Text → Prop} (composes : Composes property)

include composes

theorem flatMap {α : Type} {text : α → Text} {values : List α}
    (each : ∀ value ∈ values, property (text value)) : property (values.flatMap text) := by
  induction values with
  | nil => exact composes.nil
  | cons value values inductionHypothesis =>
      rw [List.flatMap_cons]
      apply composes.append
      · exact each value List.mem_cons_self
      · exact inductionHypothesis fun other member => each other (List.mem_cons_of_mem value member)

theorem escape (escaped : ∀ c, property (Literal.escapeChar c)) (text : Text) :
    property (Literal.escape text) :=
  composes.flatMap fun c _ => escaped c

/-- Literal text is put together of escaped characters and the two repetitions of white space.
A single space is among the former, since it is its own escape. -/
theorem encode (escaped : ∀ c, property (Literal.escapeChar c))
    (severalSpaces : property " +".toList) (whiteSpace : property "\\s+".toList) (text : Text) :
    property (Literal.encode text) := by
  apply composes.flatMap
  intro unit _
  cases unit with
  | char c => exact escaped c
  | oneSpace => exact escaped ' '
  | severalSpaces => exact severalSpaces
  | whiteSpace => exact whiteSpace

/-- The pattern of a call is that of its keyword, or a group of it and the alternatives. -/
theorem pattern {keyword : Keyword} {arguments : CallArguments} (own : property keyword.pattern)
    (opening : property "(?:".toList) (bar : property ['|']) (closing : property [')'])
    (escaped : ∀ alternative ∈ arguments.alternatives, property (Literal.escape alternative)) :
    property (CallArguments.pattern keyword arguments) := by
  cases alternatives : arguments.alternatives.isEmpty with
  | true =>
      rw [CallArguments.pattern, alternatives]
      exact own
  | false =>
      rw [CallArguments.pattern_of_alternatives keyword alternatives]
      have choice : property (arguments.alternatives.flatMap fun alternative =>
          '|' :: Literal.escape alternative) := by
        apply composes.flatMap
        exact fun alternative among => composes.append bar (escaped alternative among)
      exact composes.append (composes.append opening (composes.append own choice)) closing

end Composes

end LineTemplate
