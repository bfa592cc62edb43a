import LineTemplate.Text.Basic
import LineTemplate.Text.Extending
import LineTemplate.Text.Unprintable

/-!
Contract: the quoted form in which messages show a text.

Owns: which characters are escaped, and how.
-/

namespace LineTemplate.Text

def hexDigits (number : Nat) : Text := Nat.toDigits 16 number

/-- The escape by code point: the number in base sixteen between braces. -/
def codeEscape (c : Char) : Text :=
  '\\' :: 'u' :: '{' :: (hexDigits c.toNat ++ ['}'])

/-- The letters that are ignored by default, since they only fill a place. -/
def fillers : CodeRanges := ⟨[(0x115F, 0x1160), (0x3164, 0x3164), (0xFFA0, 0xFFA0)]⟩

/-- Whether a character has no place of its own in quoted text: it joins the
character before it or cannot be seen. The space is shown. -/
def needsCodeEscape (c : Char) : Bool :=
  c != ' ' &&
    (CodeRanges.extending.holds c || CodeRanges.unprintable.holds c || fillers.holds c)

def quoteChar (c : Char) : Text :=
  if c = '"' then ['\\', '"']
  else if c = '\\' then ['\\', '\\']
  else if c = '\n' then ['\\', 'n']
  else if c = '\r' then ['\\', 'r']
  else if c = '\t' then ['\\', 't']
  else if c.toNat = 0 then ['\\', '0']
  else if needsCodeEscape c then codeEscape c
  else [c]

/-- A text in double quotes, with every character that could not be read back
escaped. -/
def quote (text : Text) : Text :=
  '"' :: (text.flatMap quoteChar ++ ['"'])

end LineTemplate.Text
