import LineTemplate.Text.Alphabetic
import LineTemplate.Text.Basic
import LineTemplate.Text.DecimalDigit
import LineTemplate.Text.Folding
import LineTemplate.Text.Mark
import LineTemplate.Text.Numeric

/-!
Contract: the classes of characters that the reading of lines and patterns
depends on, and trimming.

Owns:
- white space, word characters, alphanumeric characters, and the ASCII classes;
- trimming of white space at either end of a text.

Does not own: the tables of the underlying properties.
-/

namespace LineTemplate.Text

/-- White space: the characters with the property White_Space. -/
def blanks : CodeRanges := ⟨[
  (0x9, 0xD), (0x20, 0x20), (0x85, 0x85), (0xA0, 0xA0), (0x1680, 0x1680),
  (0x2000, 0x200A), (0x2028, 0x2029), (0x202F, 0x202F), (0x205F, 0x205F),
  (0x3000, 0x3000)]⟩

/-- Punctuation that joins words, such as the underscore. -/
def connectors : CodeRanges := ⟨[
  (0x5F, 0x5F), (0x203F, 0x2040), (0x2054, 0x2054), (0xFE33, 0xFE34),
  (0xFE4D, 0xFE4F), (0xFF3F, 0xFF3F)]⟩

def isBlank (c : Char) : Bool := blanks.holds c

def isAlphabetic (c : Char) : Bool := CodeRanges.alphabetic.holds c

/-- Whether a character is alphabetic or stands for a number. -/
def isAlphanumeric (c : Char) : Bool :=
  isAlphabetic c || CodeRanges.numeric.holds c

/-- Whether a character is a decimal digit of some script. -/
def isDecimalDigit (c : Char) : Bool := CodeRanges.decimalDigit.holds c

/-- Whether a character belongs to words: letters, marks, decimal digits,
connecting punctuation and the two joiners. -/
def isWord (c : Char) : Bool :=
  isAlphabetic c || CodeRanges.mark.holds c || isDecimalDigit c ||
    connectors.holds c || c.toNat == 0x200C || c.toNat == 0x200D

/-- Whether a character is one of `a` to `z`. -/
def isLower (c : Char) : Bool := 'a' ≤ c && c ≤ 'z'

/-- Whether a character is one of `A` to `Z`. -/
def isUpper (c : Char) : Bool := 'A' ≤ c && c ≤ 'Z'

/-- Whether a character is one of `0` to `9`. -/
def isDigit (c : Char) : Bool := '0' ≤ c && c ≤ '9'

def isLetter (c : Char) : Bool := isLower c || isUpper c

/-- Whether a character is one of `a` to `z`, `0` to `9` and the underscore. -/
def isLowerWord (c : Char) : Bool := isLower c || isDigit c || c == '_'

/-- Whether a character is an unaccented letter, one of `0` to `9` or the
underscore. -/
def isNameChar (c : Char) : Bool := isLetter c || isDigit c || c == '_'

/-- Whether all of a text is white space; the empty text is. -/
def isAllBlank (text : Text) : Bool := text.all isBlank

def trimStart (text : Text) : Text := text.dropWhile isBlank

def trimEnd (text : Text) : Text := (text.reverse.dropWhile isBlank).reverse

def trim (text : Text) : Text := trimEnd (trimStart text)

/-- Names of variables: a letter, then letters, digits and underscores. -/
def isVariableName : Text → Bool
  | [] => false
  | first :: rest => isLetter first && rest.all isNameChar

/-- Words that name a state: letters, digits and underscores regardless of
case, at least one. -/
def isBareWord (text : Text) : Bool :=
  !text.isEmpty && text.all fun c => isLowerWord (fold c)

end LineTemplate.Text
