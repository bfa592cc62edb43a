import LineTemplate.Text.Class

/-!
Contract: the comment block at the head of a template.

Owns: its fields, and `Metadata.render`.

Does not own: where the fields come from.
-/

namespace LineTemplate

/-- Who made a template, when and what for. Empty fields are left out. -/
structure Metadata where
  author : Text
  email : Text
  company : Text
  description : Text
  created : Text
deriving DecidableEq, Repr

namespace Metadata

def empty : Metadata := ⟨[], [], [], [], []⟩

def ruler : Text := List.replicate 80 '#'

def labelWidth : Nat := 12

def padLabel (label : Text) : Text :=
  label ++ List.replicate (labelWidth - label.length) ' '

def fieldLine (label : String) (value : Text) : Text :=
  "# ".toList ++ padLabel label.toList ++ ": ".toList ++ value

/-- The line of a field, unless it is empty. -/
def fieldLines (label : String) (value : Text) : List Text :=
  if value.isEmpty then [] else [fieldLine label value]

/-- A description line after the first, below the text of the first. -/
def continuationLine (value : Text) : Text :=
  "# ".toList ++ padLabel [] ++ "  ".toList ++ value

/-- The lines of a description: blank ones are left out, and white space at the
end of the others is. -/
def descriptionLines (description : Text) : List Text :=
  let kept := (Text.lines description).filter fun line => !Text.isAllBlank line
  match kept.map Text.trimEnd with
  | [] => []
  | first :: more => fieldLine "Description" first :: more.map continuationLine

def lines (metadata : Metadata) : List Text :=
  [ruler, "# Template is generated by templateapp 0.1.0".toList] ++
    fieldLines "Created by" metadata.author ++
    fieldLines "Email" metadata.email ++
    fieldLines "Company" metadata.company ++
    fieldLines "Created date" metadata.created ++
    descriptionLines metadata.description ++
    [ruler]

/-- The whole block, without a newline at its end. -/
def render (metadata : Metadata) : Text := ['\n'].intercalate metadata.lines

end Metadata

end LineTemplate
