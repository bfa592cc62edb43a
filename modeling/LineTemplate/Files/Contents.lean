import LineTemplate.Files.Error

/-!
Contract: the contents of files, and the texts in them.

Owns: the bytes of a text, and the text of bytes if they have one.

Does not own: where contents are kept.
-/

namespace LineTemplate

/-- The contents of a file are its bytes. -/
abbrev Contents := ByteArray

namespace Contents

/-- The bytes of a text. -/
def ofText (text : Text) : Contents := (String.ofList text).toUTF8

/-- The text of bytes. -/
def text (contents : Contents) : Except FileError Text :=
  match String.fromUTF8? contents with
  | some text => .ok text.toList
  | none => .error .notText

/-- The bytes of a text are read as that text. -/
theorem text_ofText (written : Text) : text (ofText written) = .ok written := by
  have decoded (string : String) : String.fromUTF8? string.toUTF8 = some string :=
    dif_pos string.isValidUTF8
  rw [text, ofText, decoded]
  simp

end Contents

end LineTemplate
