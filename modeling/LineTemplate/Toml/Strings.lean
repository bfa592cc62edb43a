import LineTemplate.Text.Hex

/-!
Contract: the reading of strings in TOML documents.

Owns: the four forms of strings, and that each takes at least one character.

Does not own: where strings may stand.
-/

namespace LineTemplate.Toml

def isSpace (c : Char) : Bool := c = ' ' || c = '\t'

def skipSpaces (text : Text) : Text := text.dropWhile isSpace

/-- What follows a newline, which is a line feed or a carriage return with a line
feed. -/
def dropNewline? : Text → Option Text
  | '\n' :: rest => some rest
  | '\r' :: '\n' :: rest => some rest
  | _ => none

/-- Whether a character may stand in a line of text: no control character but
the tab. -/
def isPrintable (c : Char) : Bool := c = '\t' || (32 ≤ c.toNat && c.toNat != 127)

/-! ### Escapes -/

/-- Reads exactly `count` hexadecimal digits on top of the value so far. -/
def readHex : (count value : Nat) → Text → Option (Nat × Text)
  | 0, value, text => some (value, text)
  | _ + 1, _, [] => none
  | count + 1, value, first :: rest =>
      (Text.hexValue? first).bind fun digit => readHex count (16 * value + digit) rest

def readCode (count : Nat) (text : Text) : Option (Char × Text) :=
  (readHex count 0 text).bind fun (code, after) =>
    (Text.scalar? code).map fun c => (c, after)

def readEscape : Text → Option (Char × Text)
  | 'b' :: rest => some ('\x08', rest)
  | 't' :: rest => some ('\t', rest)
  | 'n' :: rest => some ('\n', rest)
  | 'f' :: rest => some ('\x0C', rest)
  | 'r' :: rest => some ('\r', rest)
  | '"' :: rest => some ('"', rest)
  | '\\' :: rest => some ('\\', rest)
  | 'u' :: rest => readCode 4 rest
  | 'U' :: rest => readCode 8 rest
  | _ => none

def skipLines : Text → Text
  | ' ' :: rest => skipLines rest
  | '\t' :: rest => skipLines rest
  | '\n' :: rest => skipLines rest
  | '\r' :: '\n' :: rest => skipLines rest
  | other => other

/-- What follows the backslash of an escaped newline: the white space up to the
next character. -/
def dropEscapedNewline? (text : Text) : Option Text :=
  (dropNewline? (skipSpaces text)).map skipLines

theorem length_dropNewline?_lt {text after : Text} (found : dropNewline? text = some after) :
    after.length < text.length := by
  unfold dropNewline? at found
  split at found <;> grind

theorem length_skipSpaces_le (text : Text) : (skipSpaces text).length ≤ text.length :=
  (List.dropWhile_sublist _).length_le

theorem length_skipLines_le (text : Text) : (skipLines text).length ≤ text.length := by
  fun_induction skipLines text <;> grind

theorem length_le_of_readHex {count value code : Nat} {text after : Text}
    (found : readHex count value text = some (code, after)) : after.length ≤ text.length := by
  fun_induction readHex count value text with
  | case1 => simp_all
  | case2 => simp at found
  | case3 value count first rest inductionHypothesis =>
      obtain ⟨digit, _, read⟩ := Option.bind_eq_some_iff.1 found
      have := inductionHypothesis digit read
      simp only [List.length_cons]
      omega

theorem length_le_of_readCode {count : Nat} {text after : Text} {c : Char}
    (found : readCode count text = some (c, after)) : after.length ≤ text.length := by
  obtain ⟨⟨code, remaining⟩, read, made⟩ := Option.bind_eq_some_iff.1 found
  obtain ⟨_, _, same⟩ := Option.map_eq_some_iff.1 made
  have := length_le_of_readHex read
  grind

theorem length_lt_of_readEscape {text after : Text} {c : Char}
    (found : readEscape text = some (c, after)) : after.length < text.length := by
  unfold readEscape at found
  split at found <;> grind [→ length_le_of_readCode]

theorem length_lt_of_dropEscapedNewline? {text after : Text}
    (found : dropEscapedNewline? text = some after) : after.length < text.length := by
  obtain ⟨remaining, dropped, same⟩ := Option.map_eq_some_iff.1 found
  have := length_dropNewline?_lt dropped
  have := length_skipSpaces_le text
  have := length_skipLines_le remaining
  grind

/-! ### The forms -/

/-- Reads a string after its quotation mark. -/
def readBasic : Text → Option (Text × Text)
  | [] => none
  | first :: rest =>
      if first = '"' then some ([], rest)
      else if first = '\\' then
        match _ : readEscape rest with
        | none => none
        | some (c, after) => (readBasic after).map fun (text, after) => (c :: text, after)
      else if isPrintable first then
        (readBasic rest).map fun (text, after) => (first :: text, after)
      else none
termination_by text => text.length
decreasing_by
  · have := length_lt_of_readEscape (by assumption)
    simp only [List.length_cons]
    omega
  · simp

/-- Reads a string after its apostrophe. -/
def readLiteral : Text → Option (Text × Text)
  | [] => none
  | first :: rest =>
      if first = '\'' then some ([], rest)
      else if isPrintable first then
        (readLiteral rest).map fun (text, after) => (first :: text, after)
      else none

/-- The marks behind the three that end a string over lines: up to two of them
belong to the string. -/
def trailingMarks (mark : Char) : Text → Text × Text
  | first :: second :: rest =>
      if first = mark then
        if second = mark then ([mark, mark], rest) else ([mark], second :: rest)
      else ([], first :: second :: rest)
  | [first] => if first = mark then ([mark], []) else ([], [first])
  | [] => ([], [])

def dropMarks? (mark : Char) : Text → Option Text
  | first :: second :: third :: rest =>
      if first = mark ∧ second = mark ∧ third = mark then some rest else none
  | _ => none

/-- Reads a string over lines after its three quotation marks. -/
def readBasicLines : Text → Option (Text × Text)
  | [] => none
  | first :: rest =>
      match dropMarks? '"' (first :: rest) with
      | some after => some (trailingMarks '"' after)
      | none =>
          if first = '\\' then
            match _ : dropEscapedNewline? rest with
            | some after => readBasicLines after
            | none =>
                match _ : readEscape rest with
                | none => none
                | some (c, after) =>
                    (readBasicLines after).map fun (text, after) => (c :: text, after)
          else
            match _ : dropNewline? (first :: rest) with
            | some after => (readBasicLines after).map fun (text, after) => ('\n' :: text, after)
            | none =>
                if isPrintable first then
                  (readBasicLines rest).map fun (text, after) => (first :: text, after)
                else none
termination_by text => text.length
decreasing_by
  · have := length_lt_of_dropEscapedNewline? (by assumption)
    simp only [List.length_cons]
    omega
  · have := length_lt_of_readEscape (by assumption)
    simp only [List.length_cons]
    omega
  · exact length_dropNewline?_lt (by assumption)
  · simp

/-- Reads a string over lines after its three apostrophes. -/
def readLiteralLines : Text → Option (Text × Text)
  | [] => none
  | first :: rest =>
      match dropMarks? '\'' (first :: rest) with
      | some after => some (trailingMarks '\'' after)
      | none =>
          match _ : dropNewline? (first :: rest) with
          | some after => (readLiteralLines after).map fun (text, after) => ('\n' :: text, after)
          | none =>
              if isPrintable first then
                (readLiteralLines rest).map fun (text, after) => (first :: text, after)
              else none
termination_by text => text.length
decreasing_by
  · exact length_dropNewline?_lt (by assumption)
  · simp

/-- Drops the newline right behind the marks that begin a string over lines. -/
def dropFirstNewline (text : Text) : Text := (dropNewline? text).getD text

def readLineString : Text → Option (Text × Text)
  | '"' :: rest => readBasic rest
  | '\'' :: rest => readLiteral rest
  | _ => none

/-- Reads a string in any form. Three marks always begin a string over lines. -/
def readString (text : Text) : Option (Text × Text) :=
  match dropMarks? '"' text with
  | some rest => readBasicLines (dropFirstNewline rest)
  | none =>
      match dropMarks? '\'' text with
      | some rest => readLiteralLines (dropFirstNewline rest)
      | none => readLineString text

end LineTemplate.Toml
