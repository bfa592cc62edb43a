import LineTemplate.Text.Quoted

/-!
Contract: what can be wrong with an annotated line or a whole template.

Owns: the causes and their wording.

Does not own: when a cause arises, and failures of files.
-/

namespace LineTemplate

/-- Why a content cannot be expanded. -/
inductive AnnotationError where
  /-- What follows `var_` is no name. -/
  | invalidVariableName (keyword name : Text)
  /-- An argument is neither a variable nor an alternative nor an option. -/
  | unknownArgument (keyword argument : Text)
  | anchorWithVariable (keyword : Text)
  /-- An anchor stands inside the line. -/
  | misplacedAnchor (keyword : Text)
  | repeatedVariable (name : Text)
  | invalidPattern (pattern reason : Text)
deriving DecidableEq, Repr

namespace AnnotationError

def message : AnnotationError → Text
  | .invalidVariableName keyword name =>
      "invalid variable name ".toList ++ Text.quote name ++ " in ".toList ++ keyword ++
        "(...)".toList
  | .unknownArgument keyword argument =>
      "unknown argument ".toList ++ Text.quote argument ++ " in ".toList ++ keyword ++
        "(...)".toList
  | .anchorWithVariable keyword =>
      keyword ++ "() is an anchor and cannot capture a variable".toList
  | .misplacedAnchor keyword => keyword ++ "() must be at the edge of the line".toList
  | .repeatedVariable name =>
      "variable ".toList ++ Text.quote name ++ " is declared twice on the same line".toList
  | .invalidPattern pattern reason =>
      "generated pattern ".toList ++ Text.quote pattern ++ " is not a valid regex: ".toList ++
        reason

end AnnotationError

/-- Why no statement or no template comes out. -/
inductive TemplateError where
  /-- A line does not split into marker and content; `Line.parse` splits every
  line, so this cause is left to other readers of lines. -/
  | invalidFormat (text : Text)
  | content (cause : AnnotationError)
  /-- A cause, with the number of the line that it arose on. -/
  | line (number : Nat) (cause : TemplateError)
  | duplicateVariable (name first second : Text)
  | emptyTemplate
deriving DecidableEq, Repr

namespace TemplateError

def message : TemplateError → Text
  | .invalidFormat text => "Invalid format - ".toList ++ Text.quote text
  | .content cause => cause.message
  | .line number cause =>
      "line ".toList ++ Text.ofNat number ++ ": ".toList ++ cause.message
  | .duplicateVariable name first second =>
      "variable ".toList ++ Text.quote name ++
        " is redefined with a different pattern (".toList ++ first ++ " vs ".toList ++
        second ++ [')']
  | .emptyTemplate => "no template statement could be built from the given data".toList

/-- The messages of an error and of the causes behind it, outermost first. The
cause behind a numbered line counts on its own. -/
def chain : TemplateError → List Text
  | .line number cause => (TemplateError.line number cause).message :: cause.chain
  | other => [other.message]

end TemplateError

end LineTemplate
