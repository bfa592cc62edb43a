import LineTemplate.Annotation.Keyword
import LineTemplate.Annotation.Literal

/-!
Contract: where a line calls keywords.

Owns:
- the form of a call, and the reading of a line into characters and calls;
- the same line as literal text with calls to known keywords in it.

Does not own: the meaning of a call's arguments.
-/

namespace LineTemplate

/-- Something written like a call, whether or not its name is known. -/
structure Call where
  name : Text
  /-- Everything between the parentheses. -/
  arguments : Text
deriving DecidableEq, Repr

/-- The unit in which a line is read. -/
inductive LinePiece where
  | char (c : Char)
  | call (call : Call)
deriving DecidableEq, Repr

/-- A call to a known keyword, with the literal text that follows it. -/
structure KeywordCall where
  keyword : Keyword
  arguments : Text
  following : Text
deriving DecidableEq, Repr

/-- A line as literal text with keyword calls in it. -/
structure AnnotatedText where
  /-- The literal text before the first call. -/
  leading : Text
  calls : List KeywordCall
deriving DecidableEq, Repr

namespace Call

def text (call : Call) : Text := call.name ++ '(' :: (call.arguments ++ [')'])

/-- Reads a call at the beginning of a text: a name of lower-case letters,
digits and underscores that begins with a letter, and arguments without
parentheses between parentheses. -/
def read? (text : Text) : Option (Call × Text) :=
  match text with
  | [] => none
  | first :: _ =>
      if Text.isLower first then
        match text.dropWhile Text.isLowerWord with
        | '(' :: inside =>
            match inside.dropWhile fun c => c != '(' && c != ')' with
            | ')' :: after =>
                some (⟨text.takeWhile Text.isLowerWord,
                  inside.takeWhile fun c => c != '(' && c != ')'⟩, after)
            | _ => none
        | _ => none
      else none

theorem length_lt_of_read? {text after : Text} {written : Call}
    (found : read? text = some (written, after)) : after.length < text.length := by
  unfold read? at found
  split at found
  · simp at found
  · rename_i first rest
    split at found
    · split at found
      · rename_i inside outer
        split at found
        · rename_i remaining inner
          simp only [Option.some.injEq, Prod.mk.injEq] at found
          have outerLength :
              ((first :: rest).dropWhile Text.isLowerWord).length ≤ (first :: rest).length :=
            (List.dropWhile_sublist _).length_le
          have innerLength :
              (inside.dropWhile fun c => c != '(' && c != ')').length ≤ inside.length :=
            (List.dropWhile_sublist _).length_le
          rw [outer] at outerLength
          rw [inner] at innerLength
          rw [← found.2]
          simp only [List.length_cons] at outerLength innerLength ⊢
          omega
        · simp at found
      · simp at found
    · simp at found

end Call

namespace LinePiece

def text : LinePiece → Text
  | .char c => [c]
  | .call written => written.text

def keyword? : LinePiece → Option Keyword
  | .char _ => none
  | .call written => Keyword.find? written.name

/-- Reads a text from left to right. A call begins where no word character
stands before its name, and what a call takes is not looked at again.
`afterWord` says whether a word character stands before the text. -/
def read (afterWord : Bool) : Text → List LinePiece
  | [] => []
  | first :: rest =>
      if afterWord then .char first :: read (Text.isWord first) rest
      else
        match _ : Call.read? (first :: rest) with
        | some (written, after) => .call written :: read false after
        | none => .char first :: read (Text.isWord first) rest
termination_by text => text.length
decreasing_by
  · simp
  · exact Call.length_lt_of_read? (by assumption)
  · simp

def ofText (text : Text) : List LinePiece := read false text

end LinePiece

namespace AnnotatedText

/-- Calls to known keywords stand out; everything else is literal. -/
def ofPieces : List LinePiece → AnnotatedText
  | [] => ⟨[], []⟩
  | piece :: pieces =>
      let rest := ofPieces pieces
      match piece with
      | .char c => ⟨c :: rest.leading, rest.calls⟩
      | .call written =>
          match Keyword.find? written.name with
          | none => ⟨written.text ++ rest.leading, rest.calls⟩
          | some keyword => ⟨[], ⟨keyword, written.arguments, rest.leading⟩ :: rest.calls⟩

/-- The keyword calls of a text and the literal text around them. -/
def ofText (text : Text) : AnnotatedText := ofPieces (LinePiece.ofText text)

end AnnotatedText

def hasKeywordCall (text : Text) : Bool :=
  (LinePiece.ofText text).any fun piece => piece.keyword?.isSome

end LineTemplate
