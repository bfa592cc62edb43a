import LineTemplate.Error
import LineTemplate.Statement
import LineTemplate.Template.Basic

/-!
Contract: the template that annotated lines make.

Owns:
- the draft that grows line by line: its states, its current state and its
  declarations;
- `Template.buildWith` for any assembler of lines, `Template.buildBy` for the
  built-in one with any judge, and `Template.build` with the built-in judge;
- which failure of a text is reported.

Does not own: the assembly of a single line.
-/

namespace LineTemplate

/-- An assembler makes the statement of one raw line. -/
abbrev Assembler := Text → Except TemplateError Statement

/-- A template in the making. -/
structure Draft where
  declared : List Variable
  states : List State
  /-- The name of the state that rules go to, once there is one. -/
  current : Option Text
deriving DecidableEq, Repr

namespace Draft

def empty : Draft := ⟨[], [], none⟩

/-- Adds options to a declaration, each once. -/
def mergeOptions (declared : Variable) (options : List ValueOption) : Variable :=
  options.foldl Variable.addOption declared

/-- Declares a captured variable. A name that is declared already keeps its place
and takes the options over; its pattern must be the same. -/
def declareIn (captured : Variable) : List Variable → Except TemplateError (List Variable)
  | [] => .ok [captured]
  | declared :: more =>
      if declared.name = captured.name then
        if declared.pattern = captured.pattern then
          .ok (mergeOptions declared captured.options :: more)
        else
          .error (.duplicateVariable captured.name declared.pattern captured.pattern)
      else (declareIn captured more).map fun rest => declared :: rest

/-- Declares variables from left to right. -/
def declareAll (declared captured : List Variable) :
    Except TemplateError (List Variable) :=
  captured.foldlM (fun known next => declareIn next known) declared

/-- Makes a state the current one, at the end if it is new. -/
def enter (draft : Draft) (name : Text) : Draft :=
  { draft with
    states :=
      if draft.states.any fun state => state.name = name then draft.states
      else draft.states ++ [⟨name, []⟩]
    current := some name }

def appendRule (name rule : Text) (states : List State) : List State :=
  states.map fun state =>
    if state.name = name then { state with statements := state.statements ++ [rule] } else state

/-- Adds a rule to the current state, which is the default one at first. -/
def addRule (defaultState : Text) (draft : Draft) (rule : Text) : Draft :=
  let name := draft.current.getD defaultState
  let entered := draft.enter name
  { entered with states := appendRule name rule entered.states }

def add (defaultState : Text) (draft : Draft) (statement : Statement) :
    Except TemplateError Draft :=
  match statement.kind with
  | .blank => .ok draft
  | .stateName => .ok (draft.enter (Text.trim statement.text))
  | .rule =>
      (declareAll draft.declared statement.captured).map fun declared =>
        { draft with declared }.addRule defaultState statement.text

/-- Takes lines in, the first of which has the given number. -/
def addLines (assembler : Assembler) (defaultState : Text) (draft : Draft) (number : Nat) :
    List Text → Except TemplateError Draft
  | [] => .ok draft
  | line :: more =>
      match assembler line with
      | .error cause => .error (.line number cause)
      | .ok statement =>
          match draft.add defaultState statement with
          | .error cause => .error cause
          | .ok next => next.addLines assembler defaultState (number + 1) more

def hasRule (draft : Draft) : Bool :=
  draft.states.any fun state => !state.statements.isEmpty

end Draft

namespace Template

/-- The state that rules go to before any state is named. -/
def startState : Text := "Start".toList

def buildWith (assembler : Assembler) (defaultState : Text) (metadata : Option Metadata)
    (text : Text) : Except TemplateError Template :=
  match Draft.empty.addLines assembler defaultState 1 (Text.lines text) with
  | .error cause => .error cause
  | .ok draft =>
      if draft.hasRule then .ok ⟨metadata, draft.declared, draft.states⟩
      else .error .emptyTemplate

/-- Builds a template with the built-in assembler, which asks the judge. -/
def buildBy (judge : PatternJudge) (defaultState : Text) (metadata : Option Metadata)
    (text : Text) : Except TemplateError Template :=
  buildWith (Statement.assembleBy judge) defaultState metadata text

def build (defaultState : Text) (metadata : Option Metadata) (text : Text) :
    Except TemplateError Template :=
  buildBy Pattern.judge defaultState metadata text

end Template

end LineTemplate
