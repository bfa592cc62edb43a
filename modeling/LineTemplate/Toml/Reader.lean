import LineTemplate.Toml.Numbers

/-!
Contract: the reading of TOML documents.

Owns: values, keys, lines, and `readDocument`.

Does not own: the rules by which tables grow.

Arrays and tables between braces may be nested, but not without limit. What is
left of the limit bounds the recursion into values; the length of the text bounds
the loops over items and lines.
-/

namespace LineTemplate.Toml

/-- The limit on nesting: neither values nor dotted keys may reach it. -/
def nestingLimit : Nat := 80

/-! ### Blanks -/

/-- Skips a comment after its sign, up to the end of the line. -/
def skipComment (text : Text) : Text := text.dropWhile isPrintable

/-- Skips spaces, newlines and comments. `budget` bounds their number. -/
def skipBlankLines : (budget : Nat) → Text → Text
  | 0, text => text
  | budget + 1, text =>
      match skipLines text with
      | '#' :: rest => skipBlankLines budget (skipComment rest)
      | other => other

def skipBlanks (text : Text) : Text := skipBlankLines (text.length + 1) text

/-- Reads the end of a line: spaces, a comment, and a newline or the end of the
text. -/
def readLineEnd (text : Text) : Option Text :=
  let rest :=
    match skipSpaces text with
    | '#' :: rest => skipComment rest
    | other => other
  if rest.isEmpty then some [] else dropNewline? rest

/-! ### Keys -/

/-- Whether a character may stand in a key without quotes. -/
def isBareKeyChar (c : Char) : Bool :=
  ('a' ≤ c && c ≤ 'z') || ('A' ≤ c && c ≤ 'Z') || isDigit c || c = '-' || c = '_'

/-- Reads a key without dots. -/
def readSimpleKey (text : Text) : Option (Text × Text) :=
  match text with
  | '"' :: _ => readLineString text
  | '\'' :: _ => readLineString text
  | _ =>
      let key := text.takeWhile isBareKeyChar
      if key.isEmpty then none else some (key, text.dropWhile isBareKeyChar)

/-- Reads keys between dots; `budget` bounds their number. Spaces may stand
around each key. -/
def readKeys : (budget : Nat) → Text → Option (List Text × Text)
  | 0, _ => none
  | budget + 1, text =>
      match readSimpleKey (skipSpaces text) with
      | none => none
      | some (key, after) =>
          match skipSpaces after with
          | '.' :: rest => (readKeys budget rest).map fun (keys, after) => (key :: keys, after)
          | other => some ([key], other)

/-- Reads a dotted key: the keys before its last, and its last key. -/
def readKey (text : Text) : Option (List Text × Text × Text) :=
  match readKeys (nestingLimit - 1) text with
  | none => none
  | some (keys, after) => keys.getLast?.map fun last => (keys.dropLast, last, after)

/-! ### Values -/

/-- Reads the items of an array up to the closing bracket, which may follow a
comma. `budget` bounds the number of items. -/
def readItems (readItem : Text → Option (Value × Text)) :
    (budget : Nat) → Text → Option (List Value × Text)
  | 0, _ => none
  | budget + 1, text =>
      match skipBlanks text with
      | ']' :: after => some ([], after)
      | start =>
          match readItem start with
          | none => none
          | some (item, afterItem) =>
              match skipBlanks afterItem with
              | ']' :: after => some ([item], after)
              | ',' :: rest =>
                  (readItems readItem budget rest).map fun (items, after) => (item :: items, after)
              | _ => none

/-- Reads a pair: a dotted key, an equals sign and a value. -/
def readPair (readItem : Text → Option (Value × Text)) (text : Text) :
    Option (List Text × Text × Value × Text) :=
  match readKey text with
  | none => none
  | some (path, key, after) =>
      match skipSpaces after with
      | '=' :: rest =>
          (readItem (skipSpaces rest)).map fun (value, after) => (path, key, value, after)
      | _ => none

/-- Reads the pairs of a table between braces, of which there is at least one,
up to the closing brace. `budget` bounds the number of pairs. -/
def readPairs (readItem : Text → Option (Value × Text)) :
    (budget : Nat) → Entries → Text → Option (Value × Text)
  | 0, _, _ => none
  | budget + 1, entries, text =>
      match readPair readItem text with
      | none => none
      | some (path, key, value, afterPair) =>
          match entries.addPair path key value, skipSpaces afterPair with
          | some entries, '}' :: after => some (.table .inline entries, after)
          | some entries, ',' :: rest => readPairs readItem budget entries rest
          | _, _ => none

/-- Reads a table after its opening brace. -/
def readInlineTable (readItem : Text → Option (Value × Text)) (text : Text) :
    Option (Value × Text) :=
  match skipSpaces text with
  | '}' :: after => some (.table .inline [], after)
  | _ => readPairs readItem (text.length + 1) [] text

def readScalar (text : Text) : Option (Value × Text) :=
  match text with
  | '"' :: _ => (readString text).map fun (string, after) => (.string string, after)
  | '\'' :: _ => (readString text).map fun (string, after) => (.string string, after)
  | 't' :: 'r' :: 'u' :: 'e' :: after => some (.boolean true, after)
  | 'f' :: 'a' :: 'l' :: 's' :: 'e' :: after => some (.boolean false, after)
  | _ => readNumber text

/-- Reads a value. `depth` is how deep values may still be nested. -/
def readValue : (depth : Nat) → Text → Option (Value × Text)
  | 0, text => readScalar text
  | depth + 1, text =>
      match text with
      | '[' :: rest =>
          (readItems (readValue depth) (rest.length + 1) rest).map fun (items, after) =>
            (.array items, after)
      | '{' :: rest => readInlineTable (readValue depth) rest
      | _ => readScalar text

/-! ### Lines -/

/-- Reads a header after its opening brackets. -/
def readHeader (double : Bool) (document : Document) (text : Text) :
    Option (Document × Text) :=
  match readKey text with
  | none => none
  | some (path, key, afterKey) =>
      let closing := if double then [']', ']'] else [']']
      match closing.isPrefixOf? afterKey with
      | none => none
      | some afterHeader =>
          match readLineEnd afterHeader, document.openHeader double path key with
          | some after, some document => some (document, after)
          | _, _ => none

def readPairLine (document : Document) (text : Text) : Option (Document × Text) :=
  match readPair (readValue (nestingLimit - 1)) text with
  | none => none
  | some (path, key, value, afterPair) =>
      match readLineEnd afterPair, document.addPair path key value with
      | some after, some document => some (document, after)
      | _, _ => none

/-- Reads one line, which may be empty. -/
def readLine (document : Document) (text : Text) : Option (Document × Text) :=
  match skipSpaces text with
  | '#' :: rest => (readLineEnd ('#' :: rest)).map fun after => (document, after)
  | '[' :: '[' :: rest => readHeader true document rest
  | '[' :: rest => readHeader false document rest
  | start =>
      match dropNewline? start with
      | some after => some (document, after)
      | none => readPairLine document start

/-- Reads lines to the end of the text. `budget` bounds their number. -/
def readLines : (budget : Nat) → Document → Text → Option Document
  | 0, _, _ => none
  | budget + 1, document, text =>
      if (skipSpaces text).isEmpty then some document
      else
        match readLine document text with
        | none => none
        | some (document, after) => readLines budget document after

/-- Drops the mark that may stand before a document. -/
def dropByteOrderMark : Text → Text
  | first :: rest => if first.toNat = 0xFEFF then rest else first :: rest
  | [] => []

/-- The pairs of a document, or none if the text is no document. -/
def readDocument (text : Text) : Option Entries :=
  let lines := dropByteOrderMark text
  (readLines (lines.length + 1) .empty lines).map Document.root

end LineTemplate.Toml
