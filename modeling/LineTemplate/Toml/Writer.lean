import LineTemplate.Text.Basic

/-!
Contract: strings in the form in which TOML documents hold them.

Owns: the four forms, the choice between them, and what each form escapes.

Does not own: what the strings mean.
-/

namespace LineTemplate.Toml

/-- The written forms of a string. -/
inductive StringForm where
  /-- Between quotation marks, with escapes. -/
  | basic
  /-- Between apostrophes, as it is. -/
  | literal
  /-- Between three quotation marks on each side, with escapes. -/
  | basicLines
  /-- Between three apostrophes on each side, as it is. -/
  | literalLines
deriving DecidableEq, Repr

namespace StringForm

def isControl (c : Char) : Bool := c.toNat < 32 || c.toNat = 127

/-- Whether a text holds control characters other than tab and newline. -/
def hasControl (text : Text) : Bool :=
  text.any fun c => isControl c && c != '\t' && c != '\n'

def hasTriple (mark : Char) : Text → Bool
  | first :: second :: third :: rest =>
      (first = mark && second = mark && third = mark) || hasTriple mark (second :: third :: rest)
  | _ => false

/-- The first form that fits a text as it is; if none does, a form with escapes. -/
def choose (text : Text) : StringForm :=
  let control := hasControl text
  let escape := text.contains '\\'
  let lines := text.contains '\n'
  if !control && !escape && !text.contains '"' && !lines then .basic
  else if !control && !text.contains '\'' && !lines then .literal
  else if !control && !escape && !hasTriple '"' text then .basicLines
  else if !control && !hasTriple '\'' text then .literalLines
  else if lines then .basicLines
  else .basic

def hexDigit (value : Nat) : Char :=
  if value < 10 then Char.ofNat ('0'.toNat + value) else Char.ofNat ('A'.toNat + (value - 10))

/-- A character in a form with escapes, quotation marks apart. -/
def escapeChar (keepsNewlines : Bool) (c : Char) : Text :=
  if c = '\x08' then ['\\', 'b']
  else if c = '\t' then ['\\', 't']
  else if c = '\n' then if keepsNewlines then [c] else ['\\', 'n']
  else if c = '\x0C' then ['\\', 'f']
  else if c = '\r' then ['\\', 'r']
  else if c = '\\' then ['\\', '\\']
  else if isControl c then
    ['\\', 'u', '0', '0', hexDigit (c.toNat / 16), hexDigit (c.toNat % 16)]
  else [c]

/-- A text in a form with escapes. `allowed` is how many quotation marks may
stand in a row, and `row` is how many stand right before the text. -/
def escapeFrom (keepsNewlines : Bool) (allowed row : Nat) : Text → Text
  | [] => []
  | first :: rest =>
      if first = '"' then
        if row < allowed then '"' :: escapeFrom keepsNewlines allowed (row + 1) rest
        else '\\' :: '"' :: escapeFrom keepsNewlines allowed 0 rest
      else escapeChar keepsNewlines first ++ escapeFrom keepsNewlines allowed 0 rest

/-- What stands between the marks of a form. -/
def body (text : Text) : StringForm → Text
  | .basic => escapeFrom false 0 0 text
  | .literal => text
  | .basicLines => escapeFrom true 2 0 text
  | .literalLines => text

/-- The marks on either side. -/
def marks : StringForm → Text
  | .basic => ['"']
  | .literal => ['\'']
  | .basicLines => ['"', '"', '"']
  | .literalLines => ['\'', '\'', '\'']

/-- Whether a form may span lines. -/
def spansLines : StringForm → Bool
  | .basic => false
  | .literal => false
  | .basicLines => true
  | .literalLines => true

/-- A text in a form. A form that spans lines begins on a line of its own, if
the text has lines. -/
def write (text : Text) (form : StringForm) : Text :=
  let opening := if form.spansLines && text.contains '\n' then ['\n'] else []
  form.marks ++ opening ++ body text form ++ form.marks

end StringForm

def writeString (text : Text) : Text := StringForm.write text (StringForm.choose text)

def writeBool (value : Bool) : Text := if value then "true".toList else "false".toList

def writePair (key : String) (value : Text) : Text :=
  key.toList ++ " = ".toList ++ value ++ ['\n']

def writeHeader (name : String) : Text := '[' :: (name.toList ++ [']', '\n'])

end LineTemplate.Toml
