/-!
Contract: texts as sequences of characters, with the searching and splitting
rules that later modules share.

Owns:
- splitting at the last and at the first occurrence of a separator, and into
  lines;
- decimal numbers as text, and the size of a text in its byte encoding.

Does not own: any character class, hence no trimming.
-/

namespace LineTemplate

/-- A text is the sequence of its characters. -/
abbrev Text := List Char

namespace Text

/-- Splits at the last place where `separator` begins; occurrences may overlap. -/
def splitAtLast? (separator : Text) : Text → Option (Text × Text)
  | [] => none
  | first :: rest =>
      match splitAtLast? separator rest with
      | some (before, after) => some (first :: before, after)
      | none => (separator.isPrefixOf? (first :: rest)).map fun after => ([], after)

/-- Splits at the first place where `separator` begins. -/
def splitAtFirst? (separator : Text) : Text → Option (Text × Text)
  | [] => none
  | first :: rest =>
      match separator.isPrefixOf? (first :: rest) with
      | some after => some ([], after)
      | none =>
          (splitAtFirst? separator rest).map fun (before, after) => (first :: before, after)

/-- The lines of a text. A newline ends a line, together with one carriage
return right before it; a last stretch without a newline is a line unless it
is empty. -/
def lines : Text → List Text
  | [] => []
  | '\n' :: rest => [] :: lines rest
  | '\r' :: '\n' :: rest => [] :: lines rest
  | first :: rest =>
      match lines rest with
      | [] => [[first]]
      | line :: more => (first :: line) :: more

/-- The decimal digits of a number, without leading zeros. -/
def ofNat (number : Nat) : Text := Nat.toDigits 10 number

/-- The number of bytes of a text in UTF-8. -/
def byteSize : Text → Nat
  | [] => 0
  | first :: rest => first.utf8Size + byteSize rest

end Text

end LineTemplate
