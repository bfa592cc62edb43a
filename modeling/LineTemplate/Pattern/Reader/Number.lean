import LineTemplate.Pattern.Syntax
import LineTemplate.Text.Class
import LineTemplate.Text.Hex

/-!
Contract: the blanks and the numbers inside the written form of regular
expressions.

Owns:
- what is skipped in verbose mode;
- code points by hexadecimal digits, and numbers of repetitions.

Does not own: where in a regular expression they may stand.
-/

namespace LineTemplate

namespace PatternReader

/-! ### Blanks -/

def afterNewline : Text → Text
  | [] => []
  | '\n' :: rest => rest
  | _ :: rest => afterNewline rest

theorem length_afterNewline_le (text : Text) : (afterNewline text).length ≤ text.length := by
  fun_induction afterNewline text <;> grind

/-- Skips white space and comments, in verbose mode only. -/
def skip (verbose : Bool) : Text → Text
  | [] => []
  | first :: rest =>
      if verbose then
        if Text.isBlank first then skip verbose rest
        else if first = '#' then skip verbose (afterNewline rest)
        else first :: rest
      else first :: rest
termination_by text => text.length
decreasing_by
  · simp
  · have := length_afterNewline_le rest
    simp only [List.length_cons]
    omega

theorem length_skip_le (verbose : Bool) (text : Text) :
    (skip verbose text).length ≤ text.length := by
  fun_induction skip verbose text <;> grind [length_afterNewline_le]

/-! ### Numbers -/

/-- Reads exactly `count` hexadecimal digits on top of the value so far. -/
def readHexFixed (verbose : Bool) : (count value : Nat) → Text → Option (Nat × Text)
  | 0, value, text => some (value, text)
  | _ + 1, _, [] => none
  | count + 1, value, first :: rest =>
      (Text.hexValue? first).bind fun digit =>
        readHexFixed verbose count (16 * value + digit) (skip verbose rest)

/-- Reads hexadecimal digits up to a closing brace; `started` says that there
was one already. -/
def readHexBraced (verbose : Bool) (started : Bool) (value : Nat) : Text → Option (Nat × Text)
  | [] => none
  | first :: rest =>
      if first = '}' then
        if started then some (value, skip verbose rest) else none
      else
        match Text.hexValue? first with
        | none => none
        | some digit => readHexBraced verbose true (16 * value + digit) (skip verbose rest)
termination_by text => text.length
decreasing_by
  have := length_skip_le verbose rest
  simp only [List.length_cons]
  omega

/-- Reads a code point after `x`, `u` or `U`: the given number of digits, or any
number of them between braces. -/
def readHex (verbose : Bool) (count : Nat) (text : Text) : Option (Atom × Text) :=
  match skip verbose text with
  | [] => none
  | '{' :: rest =>
      (readHexBraced verbose false 0 (skip verbose rest)).bind fun (value, after) =>
        (Text.scalar? value).map fun c => (.literal c false, after)
  | rest =>
      (readHexFixed verbose count 0 rest).bind fun (value, after) =>
        (Text.scalar? value).map fun c => (.literal c (count = 2), after)

/-- Reads decimal digits on top of the value so far. -/
def readDigits (verbose : Bool) (digits : Text) : Text → Text × Text
  | [] => (digits, [])
  | first :: rest =>
      if Text.isDigit first then readDigits verbose (digits ++ [first]) (skip verbose rest)
      else (digits, first :: rest)
termination_by text => text.length
decreasing_by
  have := length_skip_le verbose rest
  simp only [List.length_cons]
  omega

/-- Reads a number of repetitions, white space around it included; none where
there are no digits. -/
def readCount (verbose : Bool) (text : Text) : Option Nat × Text :=
  let (digits, after) := readDigits verbose [] (Text.trimStart text)
  (if digits.isEmpty then none else some (Nat.ofDigitChars 10 digits 0),
    Text.trimStart after)

end PatternReader

end LineTemplate
