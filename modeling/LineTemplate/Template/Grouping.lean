import LineTemplate.Template.Builder

/-!
Contract: what statements say about states and variables, taken one by one.

Owns:
- the names of states that statements use, and the rules under each of them;
- the captures of statements under one name;
- the first fault of lines.

Does not own: the template that statements make together.
-/

namespace LineTemplate

namespace Statement

/-! ### States -/

def stateName (statement : Statement) : Text := Text.trim statement.text

/-- The names of states that statements use, one after another: a name where it
is given, and for a rule the last name given before it. -/
def usedNames (current : Text) : List Statement → List Text
  | [] => []
  | statement :: more =>
      match statement.kind with
      | .blank => usedNames current more
      | .stateName => statement.stateName :: usedNames statement.stateName more
      | .rule => current :: usedNames current more

/-- The rules for which a name is the last one given before them, in order. -/
def rulesUnder (name current : Text) : List Statement → List Text
  | [] => []
  | statement :: more =>
      match statement.kind with
      | .blank => rulesUnder name current more
      | .stateName => rulesUnder name statement.stateName more
      | .rule =>
          if current = name then statement.text :: rulesUnder name current more
          else rulesUnder name current more

/-- The states of statements: the names in the order of their first use, each
with the rules under it. -/
def statesOf (defaultState : Text) (statements : List Statement) : List State :=
  (usedNames defaultState statements).eraseDups.map fun name =>
    ⟨name, rulesUnder name defaultState statements⟩

/-! ### Variables -/

/-- The captures of statements, from the first on. -/
def allCaptured (statements : List Statement) : List Variable := statements.flatMap Statement.captured

def capturesOf (name : Text) (captured : List Variable) : List Variable :=
  captured.filter fun single => single.name = name

/-- The declarations of captures: the names in the order of their first capture,
each with the pattern of that capture and with the options of all its captures
in the order of their first occurrence. -/
def declarationsOf (captured : List Variable) : List Variable :=
  (captured.map Variable.name).eraseDups.filterMap fun name =>
    (capturesOf name captured).head?.map fun first =>
      ⟨name, first.pattern, ((capturesOf name captured).flatMap Variable.options).eraseDups⟩

end Statement

/-! ### Faults -/

/-- The fault of captures after earlier ones: the first that gives a name that
was captured before another pattern. -/
def captureFault? (earlier : List Variable) : List Variable → Option TemplateError
  | [] => none
  | single :: more =>
      match (Statement.capturesOf single.name earlier).head? with
      | some first =>
          if first.pattern = single.pattern then captureFault? (earlier ++ [single]) more
          else some (.duplicateVariable single.name first.pattern single.pattern)
      | none => captureFault? (earlier ++ [single]) more

/-- The fault of a line after captures of earlier lines. -/
def lineFault? (assembler : Assembler) (earlier : List Variable) (number : Nat) (line : Text) :
    Option TemplateError :=
  match assembler line with
  | .error cause => some (.line number cause)
  | .ok statement => captureFault? earlier statement.captured

/-- What a line captures, if it can be assembled. -/
def lineCaptured (assembler : Assembler) (line : Text) : List Variable :=
  match assembler line with
  | .error _ => []
  | .ok statement => statement.captured

/-- The fault of the first line that has one. -/
def firstFault? (assembler : Assembler) (earlier : List Variable) (number : Nat) :
    List Text → Option TemplateError
  | [] => none
  | line :: more =>
      (lineFault? assembler earlier number line).or
        (firstFault? assembler (earlier ++ lineCaptured assembler line) (number + 1) more)

end LineTemplate
