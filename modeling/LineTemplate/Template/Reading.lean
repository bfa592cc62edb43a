import LineTemplate.Template.Basic

/-!
Contract: templates, read back from their text.

Owns:
- the reading of declarations and of states with their rules;
- `Template.read?`, which passes over the comment block.

Does not own: the text of a template.
-/

namespace LineTemplate

namespace ValueOption

def all : List ValueOption := [.filldown, .fillup, .key, .required, .list]

def ofName? (text : Text) : Option ValueOption := all.find? fun option => option.name = text

end ValueOption

namespace Variable

/-- Reads a name and what follows it; options between commas may stand before
the name. -/
def readName? (text : Text) : Option (List ValueOption × Text × Text) := do
  let (first, after) ← Text.splitAtFirst? [' '] text
  match after with
  | '(' :: _ => some ([], first, after)
  | _ =>
      let options ← (first.splitOn ',').mapM ValueOption.ofName?
      let (name, pattern) ← Text.splitAtFirst? [' '] after
      some (options, name, pattern)

/-- What stands between the parentheses that enclose a text. -/
def insideParentheses? : Text → Option Text
  | '(' :: inside => if inside.getLast? = some ')' then some inside.dropLast else none
  | _ => none

def read? (line : Text) : Option Variable := do
  let rest ← "Value ".toList.isPrefixOf? line
  let (options, name, pattern) ← readName? rest
  some ⟨name, ← insideParentheses? pattern, options⟩

end Variable

namespace State

/-- The state of a block of lines: its name, then its rules. -/
def ofBlock? : List Text → Option State
  | [] => none
  | name :: statements => some ⟨name, statements⟩

end State

namespace Template

/-- The lines of a text whose lines all end with a newline. -/
def endedLines (text : Text) : List Text := (text.splitOn '\n').dropLast

/-- Reads the variables and the states of a template. Comments stand at the
head, the declarations stand before the first empty line, and every empty line
begins a state. -/
def read? (text : Text) : Option (List Variable × List State) :=
  match ((endedLines text).dropWhile fun line => line.head? = some '#').splitOn [] with
  | [] => none
  | declarations :: blocks => do
      some (← declarations.mapM Variable.read?, ← blocks.mapM State.ofBlock?)

/-- The text of the states of a template, without the comments and the
declarations. -/
def statesText (template : Template) : Text :=
  (template.states.flatMap State.lines).flatMap endLine

end Template

end LineTemplate
