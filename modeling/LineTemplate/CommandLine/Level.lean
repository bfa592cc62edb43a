import LineTemplate.Text.Basic

/-!
Contract: the arguments that one level of a command line takes, and how they are
read.

Owns:
- options and operands, and the levels that they belong to;
- `Level.read`, with the causes for which arguments are refused.

Does not own: which levels there are and what they mean.
-/

namespace LineTemplate

/-- Why a command line names nothing to do. -/
inductive UsageError where
  | helpAsked
  | versionAsked
  | nothingAsked
  | missingCommand
  | unknownCommand
  | unknownArgument
  /-- A value is missing, or is no value for its argument. -/
  | invalidValue
  /-- A flag was given a value. -/
  | unexpectedValue
  /-- An option was given twice. -/
  | repeatedOption
  /-- An operand is missing. -/
  | missingOperand
deriving DecidableEq, Repr

namespace UsageError

/-- The exit code of a program that was called like this. What was asked for is
no failure. -/
def exitCode : UsageError → Nat
  | .helpAsked | .versionAsked => 0
  | _ => 2

end UsageError

/-- What an option does. -/
inductive OptionRole where
  | text
  /-- It takes a path, which is not empty. -/
  | path
  | flag
  | help
  | version
deriving DecidableEq, Repr

/-- An option of a level, with its names. -/
structure OptionRule where
  long : Text
  short : Option Char
  role : OptionRole
deriving DecidableEq, Repr

/-- The arguments of a level that are no options. -/
inductive Operands where
  | none
  | path
  | texts
deriving DecidableEq, Repr

/-- What one level of a command line takes. -/
structure Level where
  options : List OptionRule
  operands : Operands
  commands : List Text
deriving DecidableEq, Repr

/-- Arguments that were read and may still go on. -/
inductive Unsettled where
  | nothing
  | awaiting (rule : OptionRule)
  | valued (rule : OptionRule) (value : Text)
  | operands (values : List Text)
deriving DecidableEq, Repr

/-- The arguments of a level, as far as they were read. -/
structure Arguments where
  /-- The options that were given, by their long names, with their values. -/
  options : List (Text × Text)
  operands : List Text
  unsettled : Unsettled
deriving DecidableEq, Repr

/-- What follows a level: the word that goes on, and the arguments after it. -/
abbrev Continuation := Option (Text × List Text)

namespace Arguments

def none : Arguments := ⟨[], [], .nothing⟩

def value? (arguments : Arguments) (long : String) : Option Text :=
  arguments.options.lookup long.toList

/-- Whether a flag was given. -/
def hasFlag (arguments : Arguments) (long : String) : Bool := (arguments.value? long).isSome

/-- Adds an option. It may be given once. -/
def add (arguments : Arguments) (rule : OptionRule) (value : Text) :
    Except UsageError Arguments :=
  if (arguments.options.lookup rule.long).isSome then .error .repeatedOption
  else if rule.role = .path && value.isEmpty then .error .invalidValue
  else .ok { arguments with options := arguments.options ++ [(rule.long, value)] }

/-- Settles what may still go on, because it does not. -/
def settle (level : Level) (arguments : Arguments) : Except UsageError Arguments :=
  let settled := { arguments with unsettled := .nothing }
  match arguments.unsettled with
  | .nothing => .ok settled
  | .awaiting _ => .error .invalidValue
  | .valued rule value => settled.add rule value
  | .operands values =>
      if level.operands = .path && values = [[]] then .error .invalidValue
      else .ok { settled with operands := settled.operands ++ values }

def isAwaiting (arguments : Arguments) : Bool :=
  match arguments.unsettled with
  | .awaiting _ => true
  | _ => false

def hasOperand (arguments : Arguments) : Bool :=
  match arguments.unsettled with
  | .operands _ => true
  | _ => !arguments.operands.isEmpty

end Arguments

namespace Level

def readFlag (level : Level) (rule : OptionRule) (arguments : Arguments) :
    Except UsageError Arguments := do
  let settled ← arguments.settle level
  match rule.role with
  | .help => .error .helpAsked
  | .version => .error .versionAsked
  | _ => settled.add rule []

/-- Reads an option that takes a value, which may be attached to it. -/
def readValued (level : Level) (rule : OptionRule) (attached : Option Text)
    (arguments : Arguments) : Except UsageError Arguments := do
  let settled ← arguments.settle level
  match attached with
  | some value => settled.add rule value
  | none => .ok { settled with unsettled := .awaiting rule }

def takesValue (rule : OptionRule) : Bool := rule.role = .text || rule.role = .path

/-- Reads an option by its long name; a value follows an equals sign. -/
def readLong (level : Level) (written : Text) (arguments : Arguments) :
    Except UsageError Arguments :=
  let (name, attached) :=
    match Text.splitAtFirst? ['='] written with
    | some (name, value) => (name, some value)
    | none => (written, none)
  match level.options.find? fun rule => rule.long = name with
  | none => .error .unknownArgument
  | some rule =>
      if takesValue rule then level.readValued rule attached arguments
      else if attached.isSome then .error .unexpectedValue
      else level.readFlag rule arguments

/-- Reads options by their short names, one after another. What follows one that
takes a value is its value, after an equals sign if there is one. -/
def readShort (level : Level) : Text → Arguments → Except UsageError Arguments
  | [], arguments => .ok arguments
  | name :: more, arguments =>
      match level.options.find? fun rule => rule.short = some name with
      | none => .error .unknownArgument
      | some rule =>
          if takesValue rule then
            match more with
            | [] => level.readValued rule none arguments
            | '=' :: value => level.readValued rule (some value) arguments
            | value => level.readValued rule (some value) arguments
          else do
            let next ← level.readFlag rule arguments
            readShort level more next

/-- The cause for which an operand is refused. Where a command belongs, every
other word is a wrong command, but a command is a wrong word after the sign
that no options follow. -/
def refuse (level : Level) (optionsEnded : Bool) (word : Text) : UsageError :=
  if level.commands.isEmpty then .unknownArgument
  else if optionsEnded && level.commands.contains word then .unknownArgument
  else .unknownCommand

def readOperand (level : Level) (optionsEnded : Bool) (word : Text) (arguments : Arguments) :
    Except UsageError Arguments :=
  match level.operands with
  | .none => .error (level.refuse optionsEnded word)
  | .path =>
      if arguments.hasOperand then .error (level.refuse optionsEnded word)
      else do
        let settled ← arguments.settle level
        .ok { settled with unsettled := .operands [word] }
  | .texts =>
      match arguments.unsettled with
      | .operands values => .ok { arguments with unsettled := .operands (values ++ [word]) }
      | _ => do
          let settled ← arguments.settle level
          .ok { settled with unsettled := .operands [word] }

/-- Whether a word is written like an option. A dash alone is not. -/
def isOption (word : Text) : Bool := word.head? = some '-' && word.length > 1

def readWord (level : Level) (word : Text) (arguments : Arguments) :
    Except UsageError Arguments :=
  match word with
  | '-' :: '-' :: written => level.readLong written arguments
  | _ =>
      if isOption word then level.readShort word.tail arguments
      else
        match arguments.unsettled with
        | .awaiting rule => .ok { arguments with unsettled := .valued rule word }
        | _ => level.readOperand false word arguments

/-- Reads the words after the sign that no options follow. -/
def readOperands (level : Level) : List Text → Arguments → Except UsageError Arguments
  | [], arguments => .ok arguments
  | word :: more, arguments => do
      let next ← level.readOperand true word arguments
      readOperands level more next

/-- Reads words up to a command, unless the command stands where an option waits
for its value. -/
def read (level : Level) : List Text → Arguments →
    Except UsageError (Arguments × Continuation)
  | [], arguments => .ok (arguments, none)
  | word :: more, arguments =>
      if level.commands.contains word && !arguments.isAwaiting then
        .ok (arguments, some (word, more))
      else if word = ['-', '-'] then do
        let last ← level.readOperands more arguments
        .ok (last, none)
      else do
        let next ← level.readWord word arguments
        read level more next

end Level

end LineTemplate
