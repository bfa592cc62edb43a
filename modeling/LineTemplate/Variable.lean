import LineTemplate.Text.Class

/-!
Contract: captured variables and the `Value` lines that declare them.

Owns:
- the options of a declaration, their names and how they are read;
- variables, their references in rules and their declarations.

Does not own: where variables come from.
-/

namespace LineTemplate

/-- A flag on the declaration of a variable. -/
inductive ValueOption where
  | filldown
  | fillup
  | key
  | required
  | list
deriving DecidableEq, Repr

namespace ValueOption

def name : ValueOption → Text
  | .filldown => "Filldown".toList
  | .fillup => "Fillup".toList
  | .key => "Key".toList
  | .required => "Required".toList
  | .list => "List".toList

/-- The lower-case letter of a character, as far as it is unaccented: the
Kelvin sign is the only letter outside `A` to `Z` that has one. -/
def lowerCase (c : Char) : Char :=
  if Text.isUpper c then Char.ofNat (c.toNat + 32)
  else if c.toNat = 0x212A then 'k'
  else c

def ofText? (text : Text) : Option ValueOption :=
  let word := text.map lowerCase
  if word = "filldown".toList ∨ word = "fill_down".toList then some .filldown
  else if word = "fillup".toList ∨ word = "fill_up".toList then some .fillup
  else if word = "key".toList then some .key
  else if word = "required".toList then some .required
  else if word = "list".toList then some .list
  else none

/-- What is said of a text that names no option. -/
def unknownMessage (text : Text) : Text := "Unknown value option: ".toList ++ text

end ValueOption

/-- A named capture: a rule refers to it, the template declares it. -/
structure Variable where
  name : Text
  pattern : Text
  /-- Without repetition, in the order in which they were given. -/
  options : List ValueOption
deriving DecidableEq, Repr

namespace Variable

/-- Adds an option at the end, unless the variable has it. -/
def addOption (captured : Variable) (option : ValueOption) : Variable :=
  if option ∈ captured.options then captured
  else { captured with options := captured.options ++ [option] }

/-- What stands for the variable in a rule. -/
def reference (captured : Variable) : Text :=
  '$' :: '{' :: (captured.name ++ ['}'])

/-- The group that captures the variable in a regular expression. -/
def group (captured : Variable) : Text :=
  "(?P<".toList ++ captured.name ++ ['>'] ++ captured.pattern ++ [')']

def definition (captured : Variable) : Text :=
  let options :=
    if captured.options.isEmpty then []
    else [','].intercalate (captured.options.map ValueOption.name) ++ [' ']
  "Value ".toList ++ options ++ captured.name ++ " (".toList ++ captured.pattern ++ [')']

end Variable

end LineTemplate
