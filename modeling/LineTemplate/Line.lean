import LineTemplate.Text.Class

/-!
Contract: a raw line, taken apart into its content, its directive and its case
flag.

Owns:
- the separator before a directive and the marker of a line that ignores case;
- `Line.parse`, which is total, and the kinds of lines.

Does not own: the reading of annotations inside the content.
-/

namespace LineTemplate

/-- A raw line together with what is written on it. -/
structure Line where
  /-- The line as it was given. -/
  text : Text
  /-- The annotated sample, without marker and directive. -/
  content : Text
  /-- What follows the separator; empty when there is no directive. -/
  directive : Text
  ignoreCase : Bool
deriving DecidableEq, Repr

/-- What a line is for, judged by its content and its text. -/
inductive LineKind where
  /-- Nothing but white space. -/
  | blank
  /-- A word on its own, which names a state. -/
  | bareWord
  /-- No letter and no number anywhere. -/
  | punctuation
  /-- Anything else. -/
  | annotated
deriving DecidableEq, Repr

namespace Line

/-- What stands between a content and its directive. -/
def separator : Text := " -> ".toList

/-- What a line begins with that ignores case; it may itself be written in any
case. -/
def marker : Text := "ignore_case ".toList

/-- The text after the marker, when the text begins with it. -/
def dropMarker? (text : Text) : Option Text :=
  if (text.take marker.length).map Text.fold = marker then some (text.drop marker.length)
  else none

/-- The part before the last separator and the trimmed directive after it. A
text without separator is all content. -/
def splitDirective (text : Text) : Text × Text :=
  match Text.splitAtLast? separator text with
  | some (before, after) => (Text.trimEnd before, Text.trim after)
  | none => (text, [])

/-- Takes a raw line apart: first the directive, then the marker. -/
def parse (text : Text) : Line :=
  let (working, directive) := splitDirective text
  match dropMarker? working with
  | some content => ⟨text, content, directive, true⟩
  | none => ⟨text, working, directive, false⟩

/-- Whether the content is white space only. -/
def isBlank (line : Line) : Bool := Text.isAllBlank line.content

def hasDirective (line : Line) : Bool := !line.directive.isEmpty

/-- The kind of a line. The bare word is looked for in the line as given, so a
marker before a word makes it annotated. -/
def kind (line : Line) : LineKind :=
  if line.isBlank then .blank
  else if Text.isBareWord (Text.trimEnd line.text) then .bareWord
  else if line.content.all fun c => !Text.isAlphanumeric c then .punctuation
  else .annotated

end Line

end LineTemplate
