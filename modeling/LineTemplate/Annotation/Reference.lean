import LineTemplate.Variable

/-!
Contract: references to variables in the text of a rule.

Owns:
- the reading of a text into characters and references;
- the names that a text refers to, and putting something in their place.

Does not own: the declaration of variables.
-/

namespace LineTemplate

/-- The unit in which the text of a rule is read. -/
inductive RulePiece where
  | char (c : Char)
  | reference (name : Text)
deriving DecidableEq, Repr

namespace RulePiece

def text : RulePiece → Text
  | .char c => [c]
  | .reference name => '$' :: '{' :: (name ++ ['}'])

/-- Reads a reference at the beginning of a text: everything between a dollar
sign with an opening brace and the next closing brace. -/
def readReference? : Text → Option (Text × Text)
  | '$' :: '{' :: inside =>
      match inside.dropWhile fun c => c != '}' with
      | '}' :: after => some (inside.takeWhile fun c => c != '}', after)
      | _ => none
  | _ => none

theorem length_lt_of_readReference? {text name after : Text}
    (found : readReference? text = some (name, after)) : after.length < text.length := by
  unfold readReference? at found
  split at found
  · rename_i inside
    split at found
    · rename_i remaining dropped
      have bound : (inside.dropWhile fun c => c != '}').length ≤ inside.length :=
        (List.dropWhile_sublist _).length_le
      rw [dropped] at bound
      simp only [Option.some.injEq, Prod.mk.injEq] at found
      rw [← found.2]
      simp only [List.length_cons] at bound ⊢
      omega
    · simp at found
  · simp at found

/-- Reads a text from left to right. -/
def ofText (text : Text) : List RulePiece :=
  match text with
  | [] => []
  | first :: rest =>
      match _ : readReference? (first :: rest) with
      | some (name, after) => .reference name :: ofText after
      | none => .char first :: ofText rest
termination_by text.length
decreasing_by
  · exact length_lt_of_readReference? (by assumption)
  · simp

def name? : RulePiece → Option Text
  | .char _ => none
  | .reference name => some name

/-- The piece with something else in the place of a reference. A reference that
nothing is known of stays. -/
def fill (value : Text → Option Text) : RulePiece → Text
  | .char c => [c]
  | .reference name => (value name).getD (RulePiece.reference name).text

end RulePiece

/-- The names that a text refers to, from left to right. -/
def referencedNames (text : Text) : List Text :=
  (RulePiece.ofText text).filterMap RulePiece.name?

/-- A text with something else in the place of its references. -/
def fillReferences (value : Text → Option Text) (text : Text) : Text :=
  (RulePiece.ofText text).flatMap (RulePiece.fill value)

namespace Variable

/-- The group of the first variable of a name. -/
def groupOf? (captured : List Variable) (name : Text) : Option Text :=
  (captured.find? fun known => known.name = name).map group

end Variable

/-- A text as a regular expression of its own: every variable is captured where
the text refers to it. -/
def withGroups (captured : List Variable) (text : Text) : Text :=
  fillReferences (Variable.groupOf? captured) text

end LineTemplate
