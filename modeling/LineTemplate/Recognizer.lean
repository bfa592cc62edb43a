import LineTemplate.Annotation.Call
import LineTemplate.Line

/-!
Contract: the forms that lines are recognised by, as searches in a text.

Owns: for each form, the places where it occurs, with the parts that the form
singles out.

Does not own: what is made of an occurrence.
-/

namespace LineTemplate

/-- A stretch of a text: its beginning and its end, counted in bytes, and its
characters. -/
structure Span where
  start : Nat
  stop : Nat
  text : Text
deriving DecidableEq, Repr

/-- An occurrence of a form: the whole, then the parts of the form in order. A
part may take no part in an occurrence. -/
abbrev Occurrence := List (Option Span)

/-- A form that is searched for. -/
inductive Recognizer where
  | markedLine
  | bareWord
  | assembledLine
  /-- White space between two other characters, these included. -/
  | innerBlank
  | call
  | blankRun
  | variableName
deriving DecidableEq, Repr

namespace Recognizer

def span (start : Nat) (text : Text) : Span := ⟨start, start + Text.byteSize text, text⟩

/-- The occurrence of a form without parts at the beginning of a text. -/
def whole (text : Text) : Occurrence := [some (span 0 text)]

/-- The occurrences of calls among the pieces of a line. -/
def callsFrom (start : Nat) : List LinePiece → List Occurrence
  | [] => []
  | piece :: pieces =>
      let rest := callsFrom (start + Text.byteSize piece.text) pieces
      match piece with
      | .char _ => rest
      | .call written =>
          [ some (span start written.text),
            some (span start written.name),
            some (span (start + Text.byteSize written.name + 1) written.arguments) ] :: rest

def blankRunsFrom (start : Nat) : Text → List Occurrence
  | [] => []
  | first :: rest =>
      if Text.isBlank first then
        let run := first :: rest.takeWhile Text.isBlank
        [some (span start run)] ::
          blankRunsFrom (start + Text.byteSize run) (rest.dropWhile Text.isBlank)
      else blankRunsFrom (start + first.utf8Size) rest
termination_by text => text.length
decreasing_by
  · have : (rest.dropWhile Text.isBlank).length ≤ rest.length :=
      (List.dropWhile_sublist _).length_le
    simp only [List.length_cons]
    omega
  · simp

/-- White space between two characters at the beginning of a text, with what
follows. -/
def innerBlankAt? (first : Char) (rest : Text) : Option (Text × Text) :=
  match rest.takeWhile Text.isBlank, rest.dropWhile Text.isBlank with
  | _, [] => none
  | [], _ => none
  | run, last :: after =>
      if Text.isBlank first then none else some (first :: (run ++ [last]), after)

theorem length_le_of_innerBlankAt? {first : Char} {rest found after : Text}
    (occurs : innerBlankAt? first rest = some (found, after)) :
    after.length ≤ rest.length := by
  have dropped : (rest.dropWhile Text.isBlank).length ≤ rest.length :=
    (List.dropWhile_sublist _).length_le
  unfold innerBlankAt? at occurs
  split at occurs
  · simp at occurs
  · simp at occurs
  · grind

/-- The places where white space stands between other characters; what one place
takes, the next does not. -/
def innerBlanksFrom (start : Nat) : Text → List Occurrence
  | [] => []
  | first :: rest =>
      match _ : innerBlankAt? first rest with
      | some (found, after) =>
          [some (span start found)] :: innerBlanksFrom (start + Text.byteSize found) after
      | none => innerBlanksFrom (start + first.utf8Size) rest
termination_by text => text.length
decreasing_by
  · have := length_le_of_innerBlankAt? (by assumption)
    simp only [List.length_cons]
    omega
  · simp

/-- All occurrences of a form in a text, from left to right. -/
def occurrences (text : Text) : Recognizer → List Occurrence
  | .markedLine =>
      match Line.dropMarker? text with
      | some rest =>
          let marker := text.take Line.marker.length
          [[some (span 0 text), some (span 0 marker), some (span (Text.byteSize marker) rest)]]
      | none => [[some (span 0 text), none, some (span 0 text)]]
  | .bareWord => if Text.isBareWord text then [whole text] else []
  | .assembledLine =>
      if [' ', ' ', '^'].isPrefixOf text then [whole (text.take 3)] else []
  | .innerBlank => innerBlanksFrom 0 text
  | .call => callsFrom 0 (LinePiece.ofText text)
  | .blankRun => blankRunsFrom 0 text
  | .variableName => if Text.isVariableName text then [whole text] else []

end Recognizer

end LineTemplate
