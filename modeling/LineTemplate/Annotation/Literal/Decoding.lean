import LineTemplate.Annotation.Literal

/-!
Contract: literal sample text, read back from its regular expression.

Owns:
- `Literal.decode`, which gives back characters and classes of white space;
- which samples resemble a literal text, white space varying within its class.

Does not own: the encoding.
-/

namespace LineTemplate

namespace Literal

/-- The units of an encoded text. What the encoding never writes is refused: a
character with a meaning of its own that is not escaped, and an escaped one
that has none. -/
def decode : Text → Option (List LiteralUnit)
  | [] => some []
  | '\\' :: 's' :: '+' :: rest => (decode rest).map fun units => .whiteSpace :: units
  | '\\' :: c :: rest =>
      if isMeta c then (decode rest).map fun units => .char c :: units else none
  | ' ' :: '+' :: rest => (decode rest).map fun units => .severalSpaces :: units
  | ' ' :: rest => (decode rest).map fun units => .oneSpace :: units
  | c :: rest =>
      if isMeta c || Text.isBlank c then none
      else (decode rest).map fun units => .char c :: units

/-! ### Resemblance -/

/-- A run of white space that may stand for another one: for a single space only
itself, for several spaces any number of them, and for anything else any run. -/
def RunResembles (run other : Text) : Prop :=
  other ≠ [] ∧
    if run = [' '] then other = [' ']
    else if run.all fun c => c = ' ' then ∀ c ∈ other, c = ' '
    else ∀ c ∈ other, Text.isBlank c

/-- A sample that differs from a literal text only in its runs of white space. -/
inductive Resembles : (literal sample : Text) → Prop where
  | nil : Resembles [] []
  | char {c : Char} {rest sample : Text}
      (solid : ¬Text.isBlank c)
      (resembles : Resembles rest sample) :
      Resembles (c :: rest) (c :: sample)
  | run {run other rest sample : Text}
      (nonempty : run ≠ [])
      (blank : ∀ c ∈ run, Text.isBlank c)
      (whole : ∀ c, rest.head? = some c → ¬Text.isBlank c)
      (stands : RunResembles run other)
      (resembles : Resembles rest sample) :
      Resembles (run ++ rest) (other ++ sample)

end Literal

end LineTemplate
