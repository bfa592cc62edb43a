import LineTemplate.Annotation.Expansion
import LineTemplate.Line
import LineTemplate.Pattern.Acceptance

/-!
Contract: the statement of a template that one raw line becomes.

Owns:
- which lines an engine is asked about;
- the choice between the engine's text and the content itself;
- the finishing: anchors, the case flag, indentation and directive;
- `Statement.assembleWith` for any engine and judge, `Statement.assembleBy` for
  the built-in engine with any judge, and `Statement.assemble` with the built-in
  judge.

Does not own: how an engine expands a content.
-/

namespace LineTemplate

/-- What a statement is in a template. -/
inductive StatementKind where
  | blank
  | stateName
  | rule
deriving DecidableEq, Repr

/-- What one raw line becomes. -/
structure Statement where
  kind : StatementKind
  text : Text
  captured : List Variable
deriving DecidableEq, Repr

namespace Line

def indentation : Text := [' ', ' ']

/-- Whether a line is a finished rule: indented, anchored, and without calls. -/
def isAssembled (line : Line) : Bool :=
  (indentation ++ ['^']).isPrefixOf line.text && !hasKeywordCall line.content

def needsEngine (line : Line) : Bool :=
  match line.kind with
  | .blank => false
  | .bareWord => false
  | .punctuation => !line.isAssembled
  | .annotated => !line.isAssembled

end Line

namespace Statement

/-- Whether white space stands between other characters. -/
def hasInnerBlank (text : Text) : Bool := (Text.trim text).any Text.isBlank

/-- The body of a line without variables: the content itself, if it is a regular
expression without inner white space, and the engine's text otherwise. -/
def plainBody (judge : PatternJudge) (line : Line) (engineText : Text) : Text :=
  if judge.accepts line.content && !hasInnerBlank line.content then
    flagText line.ignoreCase ++ line.content
  else engineText

/-- Puts the anchor of the line in front, also before a case flag that stood
before an anchor. -/
def anchorStart (body : Text) : Text :=
  match (ignoreCaseFlag ++ ['^']).isPrefixOf? body with
  | some rest => '^' :: (ignoreCaseFlag ++ rest)
  | none => if ['^'].isPrefixOf body then body else '^' :: body

/-- Removes dollar signs at the end of a text, given from its end, as long as an
anchor stands before them. -/
def dropSurplusAnchors : (reversed : Text) → Text
  | '$' :: before =>
      if Literal.anchorLeads before then dropSurplusAnchors before else '$' :: before
  | other => other

/-- Makes a text, given from its end, end with one anchor. -/
def closeReversed (reversed : Text) : Text :=
  let remaining := dropSurplusAnchors reversed
  if Literal.anchorLeads remaining then remaining else '$' :: remaining

def anchorEnd (body : Text) : Text := (closeReversed body.reverse).reverse

/-- The body between the indentation and the directive. The anchor at the end is
kept where the content has one. -/
def finishBody (line : Line) (body : Text) : Text :=
  let anchored := anchorStart body
  if Literal.endsWithAnchor line.content then anchorEnd anchored else anchored

/-- The directive with the separator before it, if there is one. -/
def directiveText (line : Line) : Text :=
  if line.hasDirective then Line.separator ++ line.directive else []

def finish (line : Line) (body : Text) : Text :=
  Line.indentation ++ finishBody line body ++ directiveText line

def bodyOf (judge : PatternJudge) (line : Line) : Expansion → Text
  | .captures _ statement => statement
  | .plain text => plainBody judge line text

def ofLine (judge : PatternJudge) (engine : Engine) (line : Line) :
    Except AnnotationError Statement :=
  match line.kind with
  | .blank => .ok ⟨.blank, [], []⟩
  | .bareWord => .ok ⟨.stateName, line.text, []⟩
  | _ =>
      if line.needsEngine then
        (engine line.content line.ignoreCase).map fun expansion =>
          ⟨.rule, finish line (bodyOf judge line expansion), expansion.captured⟩
      else .ok ⟨.rule, line.text, []⟩

def assembleWith (judge : PatternJudge) (engine : Engine) (raw : Text) :
    Except TemplateError Statement :=
  (ofLine judge engine (Line.parse raw)).mapError .content

/-- The statement of a raw line by the built-in engine, which asks the same judge. -/
def assembleBy (judge : PatternJudge) (raw : Text) : Except TemplateError Statement :=
  assembleWith judge (expandWith judge) raw

def assemble (raw : Text) : Except TemplateError Statement :=
  assembleBy Pattern.judge raw

end Statement

end LineTemplate
