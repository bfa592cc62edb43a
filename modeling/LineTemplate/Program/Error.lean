import LineTemplate.Error
import LineTemplate.Files.Error

/-!
Contract: why the program stops without doing what was asked.

Owns: the causes and their wording.

Does not own: the causes behind them.
-/

namespace LineTemplate

/-- Why the program stops. -/
inductive ProgramError where
  | missingFile (path : Text)
  | notFile (path : Text)
  | reading (path : Text) (cause : FileError)
  | readingInput (cause : FileError)
  | writing (path : Text) (cause : FileError)
  /-- A directory cannot be made, or the file of the settings cannot be used. -/
  | file (cause : FileError)
  | settings
  | statement (line : Text) (cause : TemplateError)
  | template (cause : TemplateError)
  | nobodyToAsk
deriving DecidableEq, Repr

namespace ProgramError

/-- The messages of the error and of the causes behind it, outermost first. -/
def chain : ProgramError → List Text
  | .missingFile path => ["File not found: ".toList ++ path]
  | .notFile path => ["Not a file: ".toList ++ path]
  | .reading path cause => ["Failed to read ".toList ++ path, cause.message]
  | .readingInput cause => ["Failed to read from stdin".toList, cause.message]
  | .writing path cause => ["Failed to write ".toList ++ path, cause.message]
  | .file cause => [cause.message]
  | .settings => ["TOML parse error".toList]
  | .statement line cause =>
      ("Cannot build a statement from ".toList ++ Text.quote line) :: cause.chain
  | .template cause => "Failed to build template".toList :: cause.chain
  | .nobodyToAsk => ["IO error: not a terminal".toList, "not a terminal".toList]

def message (error : ProgramError) : Text := ": ".toList.intercalate error.chain

end ProgramError

end LineTemplate
