import LineTemplate.Annotation.Expansion
import LineTemplate.Annotation.Literal.Decoding
import LineTemplate.Pattern.Matching

/-!
Contract: the sample lines that an annotated line stands for.

Owns:
- an annotated line without the anchors at its edges;
- `AnnotatedText.Describes`, the samples of a line.

Does not own: the regular expression of a line.
-/

namespace LineTemplate

namespace AnnotatedText

/-- The line without a call of its start, and without the white space after the
call. What stands before the call is white space and goes too. -/
def withoutStart (annotated : AnnotatedText) : AnnotatedText :=
  match annotated.calls with
  | [] => annotated
  | call :: calls =>
      if call.keyword.role = .lineStart then ⟨Text.trimStart call.following, calls⟩
      else annotated

/-- The line without a call of its end, and without the white space before the
call. What stands after the call is white space and goes too. -/
def withoutEndFrom (leading : Text) : List KeywordCall → AnnotatedText
  | [] => ⟨leading, []⟩
  | call :: calls =>
      if call.keyword.role = .lineEnd then ⟨Text.trimEnd leading, []⟩
      else
        let rest := withoutEndFrom call.following calls
        ⟨leading, ⟨call.keyword, call.arguments, rest.leading⟩ :: rest.calls⟩

/-- The line without calls of its start and its end. -/
def withoutEdges (annotated : AnnotatedText) : AnnotatedText :=
  let started := annotated.withoutStart
  withoutEndFrom started.leading started.calls

end AnnotatedText

namespace KeywordCall

/-- A text that a call stands for: one that the keyword's regular expression
matches, or one of the alternatives. -/
def StandsFor (meaning : PropertyMeaning) (call : KeywordCall) (text : Text) : Prop :=
  ∃ known, CallArguments.read call.keyword call.arguments = .ok known ∧
    (Pattern.WrittenMatches meaning call.keyword.pattern text ∨ text ∈ known.alternatives)

end KeywordCall

namespace AnnotatedText

/-- The samples of literal text and the calls after it. -/
inductive DescribesFrom (meaning : PropertyMeaning) : Text → List KeywordCall → Text → Prop where
  | literal {leading sample : Text}
      (resembles : Literal.Resembles leading sample) :
      DescribesFrom meaning leading [] sample
  | call {leading sample inside rest : Text} {call : KeywordCall} {calls : List KeywordCall}
      (resembles : Literal.Resembles leading sample)
      (stands : call.StandsFor meaning inside)
      (describes : DescribesFrom meaning call.following calls rest) :
      DescribesFrom meaning leading (call :: calls) (sample ++ (inside ++ rest))

/-- The samples of an annotated line. -/
def Describes (meaning : PropertyMeaning) (annotated : AnnotatedText) (sample : Text) : Prop :=
  DescribesFrom meaning annotated.withoutEdges.leading annotated.withoutEdges.calls sample

end AnnotatedText

end LineTemplate
