import LineTemplate.Annotation.Call
import LineTemplate.Error
import LineTemplate.Variable

/-!
Contract: the expansion of an annotated content to the body of a rule.

Owns:
- the arguments of a call and what they make of its keyword;
- the parts that a content expands to, and the two texts that they spell: the
  statement, which refers to variables, and the probe, which captures them;
- `expandWith`, the built-in engine for a given judge of regular expressions.

Does not own: which texts are acceptable regular expressions.
-/

namespace LineTemplate

/-- What a content expands to. -/
inductive Expansion where
  | captures (captured : List Variable) (statement : Text)
  /-- A text without variables. -/
  | plain (text : Text)
deriving DecidableEq, Repr

namespace Expansion

def text : Expansion → Text
  | .captures _ statement => statement
  | .plain text => text

def captured : Expansion → List Variable
  | .captures captured _ => captured
  | .plain _ => []

/-- Whether the expansion is of the kind that refers to variables; its list may
still be empty. -/
def isCaptures : Expansion → Bool
  | .captures _ _ => true
  | .plain _ => false

end Expansion

/-- An engine expands a content, given whether it ignores case. -/
abbrev Engine := (content : Text) → (ignoreCase : Bool) → Except AnnotationError Expansion

/-- A judge of regular expressions: the reason for which a text is refused, or
none for a text that is accepted. -/
abbrev PatternJudge := Text → Option Text

namespace PatternJudge

def accepts (judge : PatternJudge) (text : Text) : Bool := (judge text).isNone

end PatternJudge

/-- The arguments of a call, as far as they have a meaning. -/
structure CallArguments where
  /-- The last name given. -/
  name : Option Text
  /-- Literal alternatives to the keyword, in order. -/
  alternatives : List Text
  options : List ValueOption
deriving DecidableEq, Repr

namespace CallArguments

def empty : CallArguments := ⟨none, [], []⟩

/-- The arguments between the parentheses: split at commas, trimmed, and
without the empty ones. -/
def split (arguments : Text) : List Text :=
  ((arguments.splitOn ',').map Text.trim).filter fun argument => !argument.isEmpty

def add (keyword : Keyword) (known : CallArguments) (argument : Text) :
    Except AnnotationError CallArguments :=
  match "var_".toList.isPrefixOf? argument with
  | some name =>
      if Text.isVariableName name then .ok { known with name := some name }
      else .error (.invalidVariableName keyword.name name)
  | none =>
      if argument = "or_empty".toList then
        .ok { known with alternatives := known.alternatives ++ [[]] }
      else
        match "or_".toList.isPrefixOf? argument with
        | some alternative =>
            .ok { known with alternatives := known.alternatives ++ [alternative] }
        | none =>
            match ValueOption.ofText? argument with
            | some option => .ok { known with options := known.options ++ [option] }
            | none => .error (.unknownArgument keyword.name argument)

/-- Reads the arguments of a call from left to right, up to the first that has
no meaning. -/
def read (keyword : Keyword) (arguments : Text) : Except AnnotationError CallArguments :=
  (split arguments).foldlM (add keyword) empty

/-- The keyword's pattern, or the choice between it and the alternatives. -/
def pattern (keyword : Keyword) (arguments : CallArguments) : Text :=
  if arguments.alternatives.isEmpty then keyword.pattern
  else
    "(?:".toList ++
      ['|'].intercalate (keyword.pattern :: arguments.alternatives.map Literal.escape) ++ [')']

end CallArguments

/-- A part of an expanded content. -/
inductive ExpandedPart where
  | literal (text : Text)
  | inline (pattern : Text)
  | capture (captured : Variable)
deriving DecidableEq, Repr

namespace ExpandedPart

/-- The part in a rule: variables are referred to. -/
def statement : ExpandedPart → Text
  | .literal text => Literal.encode text
  | .inline pattern => pattern
  | .capture captured => captured.reference

/-- The part in a regular expression of its own: variables are captured. -/
def probe : ExpandedPart → Text
  | .literal text => Literal.encode text
  | .inline pattern => pattern
  | .capture captured => captured.group

def captured? : ExpandedPart → Option Variable
  | .capture captured => some captured
  | _ => none

/-- The part that a call expands to. -/
def ofCall (call : KeywordCall) : Except AnnotationError ExpandedPart := do
  let arguments ← CallArguments.read call.keyword call.arguments
  if call.keyword.isAnchor then
    if arguments.name.isSome then .error (.anchorWithVariable call.keyword.name)
    else .ok (.inline call.keyword.pattern)
  else
    let pattern := CallArguments.pattern call.keyword arguments
    match arguments.name with
    | some name =>
        .ok (.capture (arguments.options.foldl Variable.addOption ⟨name, pattern, []⟩))
    | none => .ok (.inline pattern)

/-- Refuses a capture of a name that is bound already. -/
def checkFresh (bound : List Text) : ExpandedPart → Except AnnotationError Unit
  | .capture captured =>
      if captured.name ∈ bound then .error (.repeatedVariable captured.name) else .ok ()
  | _ => .ok ()

end ExpandedPart

namespace AnnotatedText

/-- Whether a call of an anchor is inside the line: text or calls stand on the
side that the anchor closes. `opening` says that no call comes before it,
`before` is the literal text before it, and `calls` are the calls after it. -/
def isMisplaced (opening : Bool) (before : Text) (call : KeywordCall)
    (calls : List KeywordCall) : Bool :=
  match call.keyword.role with
  | .placeholder => false
  | .lineStart => !(opening && Text.isAllBlank before)
  | .lineEnd => !(calls.isEmpty && Text.isAllBlank call.following)

/-- The literal text between a call and the role of what comes next: anchors
absorb the white space beside them. -/
def literalBetween (afterStart : Bool) (next : KeywordRole) (text : Text) : Text :=
  let text := if afterStart then Text.trimStart text else text
  match next with
  | .placeholder => text
  | .lineStart => []
  | .lineEnd => Text.trimEnd text

/-- The parts of a line from the literal text `before` on. `opening` says that
no call came yet, `afterStart` that the call right before was the start of the
line, and `bound` lists the names captured so far. -/
def expandFrom (opening afterStart : Bool) (bound : List Text) (before : Text) :
    List KeywordCall → Except AnnotationError (List ExpandedPart)
  | [] => .ok [.literal (literalBetween afterStart .placeholder before)]
  | call :: calls =>
      if isMisplaced opening before call calls then
        .error (.misplacedAnchor call.keyword.name)
      else do
        let part ← ExpandedPart.ofCall call
        part.checkFresh bound
        let names := part.captured?.toList.map Variable.name
        let parts ←
          expandFrom false (call.keyword.role = .lineStart) (bound ++ names) call.following calls
        .ok (.literal (literalBetween afterStart call.keyword.role before) :: part :: parts)

/-- The parts of a whole line. -/
def expand (annotated : AnnotatedText) : Except AnnotationError (List ExpandedPart) :=
  expandFrom true false [] annotated.leading annotated.calls

end AnnotatedText

/-- The flag by which a regular expression ignores case. -/
def ignoreCaseFlag : Text := "(?i)".toList

/-- The flag, where case is ignored. -/
def flagText (ignoreCase : Bool) : Text := if ignoreCase then ignoreCaseFlag else []

/-- The built-in engine. It expands the content without its end anchor and has
the judge accept the probe before it gives the statement away. -/
def expandWith (judge : PatternJudge) : Engine := fun content ignoreCase => do
  let parts ← (AnnotatedText.ofText (Literal.withoutAnchor content)).expand
  let statement := flagText ignoreCase ++ parts.flatMap ExpandedPart.statement
  let probe := flagText ignoreCase ++ parts.flatMap ExpandedPart.probe
  match judge probe with
  | some reason => .error (.invalidPattern statement reason)
  | none =>
      match parts.filterMap ExpandedPart.captured? with
      | [] => .ok (.plain statement)
      | captured => .ok (.captures captured statement)

end LineTemplate
