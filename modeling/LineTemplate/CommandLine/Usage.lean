import LineTemplate.CommandLine.Level

/-!
Contract: what is shown for a command line that names nothing to do.

Owns: the overview of the commands, and the wording of the causes.

Does not own: when a cause arises.
-/

namespace LineTemplate

def commandOverview : Text := "Usage: templateapp [-c PATH] COMMAND

Commands:
  statement, s LINE...   show the statement of each line
  build, b [FILE]        build a template from annotated text
      -o PATH -d TEXT -y --author TEXT --email TEXT --company TEXT --no-header
  dependency, dep        show what the program is made of
  config [--init]        show the settings
  help [COMMAND]         show this overview
".toList

namespace UsageError

/-- What is wrong. What was asked for has no wording of its own. -/
def reason : UsageError → Text
  | .helpAsked | .versionAsked | .nothingAsked => []
  | .missingCommand => "error: a command is missing\n\n".toList
  | .unknownCommand => "error: unknown command\n\n".toList
  | .unknownArgument => "error: unknown argument\n\n".toList
  | .invalidValue => "error: a value is missing or invalid\n\n".toList
  | .unexpectedValue => "error: a flag takes no value\n\n".toList
  | .repeatedOption => "error: an option is given twice\n\n".toList
  | .missingOperand => "error: a line is missing\n\n".toList

def message : UsageError → Text
  | .versionAsked => "templateapp 0.1.0\n".toList
  | other => other.reason ++ commandOverview

end UsageError

end LineTemplate
