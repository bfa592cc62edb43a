import LineTemplate.Text.Class

/-!
Contract: literal sample text as a regular expression.

Owns:
- which characters are escaped;
- what the white space of a sample stands for;
- the trailing anchor of a line, told apart from an escaped dollar sign.

Does not own: which parts of a line are literal.
-/

namespace LineTemplate

/-- The unit of literal sample text: a character that stands for itself, or a
whole run of white space, of which only the class is kept. -/
inductive LiteralUnit where
  | char (c : Char)
  /-- Exactly one space. -/
  | oneSpace
  /-- Two or more spaces and nothing else. -/
  | severalSpaces
  /-- A run with white space other than the space. -/
  | whiteSpace
deriving DecidableEq, Repr

namespace Literal

/-- Whether a character has a meaning of its own in regular expressions. -/
def isMeta (c : Char) : Bool :=
  "\\.+*?()|[]\x7b\x7d^$#&-~".toList.contains c

def escapeChar (c : Char) : Text := if isMeta c then ['\\', c] else [c]

/-- A text as a regular expression that matches it, white space included. -/
def escape (text : Text) : Text := text.flatMap escapeChar

def runUnit (run : Text) : LiteralUnit :=
  if run = [' '] then .oneSpace
  else if run.all (· = ' ') then .severalSpaces
  else .whiteSpace

/-- The units of a text, each run of white space taken as a whole. -/
def units : Text → List LiteralUnit
  | [] => []
  | first :: rest =>
      if Text.isBlank first then
        runUnit (first :: rest.takeWhile Text.isBlank) :: units (rest.dropWhile Text.isBlank)
      else .char first :: units rest
termination_by text => text.length
decreasing_by
  · have : (rest.dropWhile Text.isBlank).length ≤ rest.length :=
      (List.dropWhile_sublist _).length_le
    simp only [List.length_cons]
    omega
  · simp

def unitPattern : LiteralUnit → Text
  | .char c => escapeChar c
  | .oneSpace => [' ']
  | .severalSpaces => [' ', '+']
  | .whiteSpace => ['\\', 's', '+']

/-- Literal sample text as a regular expression: characters are escaped, and
white space may vary within its class. -/
def encode (text : Text) : Text := (units text).flatMap unitPattern

/-- Whether a text, given from its end, ends with a dollar sign that no
backslash escapes. -/
def anchorLeads : (reversed : Text) → Bool
  | '$' :: before => (before.takeWhile (· = '\\')).length % 2 = 0
  | _ => false

/-- Whether a text ends with a dollar sign that no backslash escapes. -/
def endsWithAnchor (text : Text) : Bool := anchorLeads text.reverse

/-- The text of a line that is expanded: without white space at its end, and
without the anchor there. -/
def withoutAnchor (content : Text) : Text :=
  let text := Text.trimEnd content
  if endsWithAnchor text then Text.trimEnd text.dropLast else text

end Literal

end LineTemplate
