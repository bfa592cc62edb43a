import LineTemplate.Template.Metadata
import LineTemplate.Variable

/-!
Contract: finished templates and their text.

Owns: states, templates, and `Template.render`.

Does not own: how a template is made from annotated lines.
-/

namespace LineTemplate

/-- A named state with its rules. -/
structure State where
  name : Text
  statements : List Text
deriving DecidableEq, Repr

/-- A finished template. -/
structure Template where
  metadata : Option Metadata
  /-- The variables, in the order that they are declared in. -/
  declared : List Variable
  states : List State
deriving DecidableEq, Repr

namespace State

/-- The lines of a state, the empty line before it included. -/
def lines (state : State) : List Text := [] :: state.name :: state.statements

end State

namespace Template

/-- The first state of a name. -/
def state? (template : Template) (name : Text) : Option State :=
  template.states.find? fun state => state.name = name

def endLine (line : Text) : Text := line ++ ['\n']

/-- The parts of a template that are followed by a newline each: the comment
block, the declarations, and the states after an empty line. -/
def blocks (template : Template) : List Text :=
  (template.metadata.map Metadata.render).toList ++
    template.declared.map Variable.definition ++
    template.states.flatMap State.lines

def render (template : Template) : Text := template.blocks.flatMap endLine

end Template

end LineTemplate
