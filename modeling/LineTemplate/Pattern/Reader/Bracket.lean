import LineTemplate.Pattern.Reader.Escape

/-!
Contract: bracketed sets of characters in the written form of regular
expressions.

Owns: `PatternReader.readBracket`, and that it takes at least one character.

Does not own: which characters a set holds.

The reader keeps the brackets that are open. Of each it knows the members read
so far and the operand that waits on the left of an operation.
-/

namespace LineTemplate

namespace PatternReader

/-- The set that an unbracketed character or escape stands for inside brackets;
places and the dot stand for none. -/
def setOfAtom? : Atom → Option CharSet
  | .literal c asByte => some (.literal c asByte)
  | .shorthand shorthand negated => some (.shorthand shorthand negated)
  | .property query negated => some (.property query negated)
  | .anyChar => none
  | .assertion _ => none

/-- The range between two characters in order. -/
def setOfRange? : Atom → Atom → Option CharSet
  | .literal first firstAsByte, .literal last lastAsByte =>
      if first ≤ last then some (.range first firstAsByte last lastAsByte) else none
  | _, _ => none

def readMember (verbose : Bool) : Text → Option (Atom × Text)
  | [] => none
  | '\\' :: rest => readEscape verbose rest
  | first :: rest => some (.literal first false, rest)

/-- The character that decides whether a hyphen makes a range. In verbose mode,
white space and one comment sign before it do not count. -/
def afterHyphen? (verbose : Bool) (text : Text) : Option Char :=
  if verbose then
    match text.dropWhile Text.isBlank with
    | '#' :: rest => (rest.dropWhile Text.isBlank).head?
    | rest => rest.head?
  else text.head?

/-- Reads a member or a range of members. A hyphen before a closing bracket or
before another hyphen makes no range. -/
def readRange (verbose : Bool) (text : Text) : Option (CharSet × Text) :=
  match readMember verbose text with
  | none => none
  | some (first, afterFirst) =>
      match skip verbose afterFirst with
      | [] => none
      | '-' :: rest =>
          if afterHyphen? verbose rest = some ']' ∨ afterHyphen? verbose rest = some '-' then
            (setOfAtom? first).map fun set => (set, '-' :: rest)
          else
            match readMember verbose (skip verbose rest) with
            | none => none
            | some (last, afterLast) => (setOfRange? first last).map fun set => (set, afterLast)
      | other => (setOfAtom? first).map fun set => (set, other)

def asciiClass? (name : Text) : Option AsciiClass :=
  if name = "alnum".toList then some .alnum
  else if name = "alpha".toList then some .alpha
  else if name = "ascii".toList then some .ascii
  else if name = "blank".toList then some .blank
  else if name = "cntrl".toList then some .cntrl
  else if name = "digit".toList then some .digit
  else if name = "graph".toList then some .graph
  else if name = "lower".toList then some .lower
  else if name = "print".toList then some .print
  else if name = "punct".toList then some .punct
  else if name = "space".toList then some .space
  else if name = "upper".toList then some .upper
  else if name = "word".toList then some .word
  else if name = "xdigit".toList then some .xdigit
  else none

/-- Reads the name of an ASCII class and the end of its brackets. -/
def readAsciiName (negated : Bool) (text : Text) : Option (CharSet × Text) :=
  match text.dropWhile (· != ':') with
  | ':' :: ']' :: after =>
      (asciiClass? (text.takeWhile (· != ':'))).map fun name => (.ascii name negated, after)
  | _ => none

/-- Reads an ASCII class such as `[:digit:]` after its opening bracket. -/
def readAscii? : Text → Option (CharSet × Text)
  | ':' :: '^' :: rest => readAsciiName true rest
  | ':' :: rest => readAsciiName false rest
  | _ => none

/-- Reads the hyphens that stand for themselves at the beginning of a set. -/
def readHyphens (verbose : Bool) : Text → List CharSet × Text
  | [] => ([], [])
  | first :: rest =>
      if first = '-' then
        let (members, after) := readHyphens verbose (skip verbose rest)
        (.literal '-' false :: members, after)
      else ([], first :: rest)
termination_by text => text.length
decreasing_by
  have := length_skip_le verbose rest
  simp only [List.length_cons]
  omega

/-- What is known of an open bracket. -/
structure OpenBracket where
  negated : Bool
  /-- The operation that waits for its right operand. -/
  operand : Option (SetOperation × CharSet)
  /-- The members since the bracket or the operation, last first. -/
  members : List CharSet
deriving Repr

namespace OpenBracket

/-- The set between the brackets, as far as it was read. -/
def content (opened : OpenBracket) : CharSet :=
  let set := CharSet.ofMembers opened.members.reverse
  match opened.operand with
  | none => set
  | some (operation, left) => .combined operation left set

def add (opened : OpenBracket) (member : CharSet) : OpenBracket :=
  { opened with members := member :: opened.members }

/-- Makes what was read the left operand of an operation. -/
def operate (opened : OpenBracket) (operation : SetOperation) : OpenBracket :=
  { opened with operand := some (operation, opened.content), members := [] }

end OpenBracket

/-- Reads the sign of negation at the beginning of a set. -/
def readNegation (verbose : Bool) (text : Text) : Bool × Text :=
  match skip verbose text with
  | '^' :: rest => (true, skip verbose rest)
  | other => (false, other)

/-- Reads the hyphens or the closing bracket that stand for themselves at the
beginning of a set. -/
def readFirstMembers (verbose negated : Bool) (text : Text) : Option (OpenBracket × Text) :=
  match readHyphens verbose text with
  | (_, []) => none
  | ([], ']' :: rest) =>
      if (skip verbose rest).isEmpty then none
      else some (⟨negated, none, [.literal ']' false]⟩, skip verbose rest)
  | (hyphens, after) => some (⟨negated, none, hyphens⟩, after)

/-- Reads the beginning of a set after its opening bracket. -/
def readOpening (verbose : Bool) (text : Text) : Option (OpenBracket × Text) :=
  let (negated, inside) := readNegation verbose text
  readFirstMembers verbose negated inside

/-! ### What the readers take -/

theorem length_lt_of_readMember {verbose : Bool} {text after : Text} {atom : Atom}
    (found : readMember verbose text = some (atom, after)) : after.length < text.length := by
  unfold readMember at found
  split at found
  · simp at found
  · have := length_lt_of_readEscape found
    simp only [List.length_cons]
    omega
  · grind

theorem length_lt_of_readRange {verbose : Bool} {text after : Text} {set : CharSet}
    (found : readRange verbose text = some (set, after)) : after.length < text.length := by
  unfold readRange at found
  split at found
  · simp at found
  · rename_i first afterFirst readFirst
    have := length_lt_of_readMember readFirst
    have skipped := length_skip_le verbose afterFirst
    split at found
    · simp at found
    · rename_i rest hyphen
      split at found
      · obtain ⟨_, _, same⟩ := Option.map_eq_some_iff.1 found
        grind
      · split at found
        · simp at found
        · rename_i last afterLast readLast
          have := length_lt_of_readMember readLast
          have := length_skip_le verbose rest
          obtain ⟨_, _, same⟩ := Option.map_eq_some_iff.1 found
          grind
    · obtain ⟨_, _, same⟩ := Option.map_eq_some_iff.1 found
      grind

theorem length_lt_of_readAsciiName {negated : Bool} {text after : Text} {set : CharSet}
    (found : readAsciiName negated text = some (set, after)) :
    after.length < text.length := by
  unfold readAsciiName at found
  have dropped : (text.dropWhile (· != ':')).length ≤ text.length :=
    (List.dropWhile_sublist _).length_le
  split at found
  · obtain ⟨_, _, same⟩ := Option.map_eq_some_iff.1 found
    grind
  · simp at found

theorem length_lt_of_readAscii? {text after : Text} {set : CharSet}
    (found : readAscii? text = some (set, after)) : after.length < text.length := by
  unfold readAscii? at found
  split at found
  · have := length_lt_of_readAsciiName found
    simp only [List.length_cons]
    omega
  · have := length_lt_of_readAsciiName found
    simp only [List.length_cons]
    omega
  · simp at found

theorem length_readHyphens_le (verbose : Bool) (text : Text) :
    (readHyphens verbose text).2.length ≤ text.length := by
  fun_induction readHyphens verbose text with
  | case1 => simp
  | case2 rest members after same inductionHypothesis =>
      have := length_skip_le verbose rest
      grind
  | case3 => simp

theorem length_readNegation_le (verbose : Bool) (text : Text) :
    (readNegation verbose text).2.length ≤ text.length := by
  have skipped := length_skip_le verbose text
  unfold readNegation
  split
  · rename_i rest _
    have := length_skip_le verbose rest
    grind
  · grind

theorem length_le_of_readFirstMembers {verbose negated : Bool} {text after : Text}
    {opened : OpenBracket}
    (found : readFirstMembers verbose negated text = some (opened, after)) :
    after.length ≤ text.length := by
  have hyphens := length_readHyphens_le verbose text
  unfold readFirstMembers at found
  split at found
  · simp at found
  · rename_i rest _
    have := length_skip_le verbose rest
    grind
  · grind

theorem length_le_of_readOpening {verbose : Bool} {text after : Text} {opened : OpenBracket}
    (found : readOpening verbose text = some (opened, after)) :
    after.length ≤ text.length := by
  have inside := length_readNegation_le verbose text
  exact Nat.le_trans (length_le_of_readFirstMembers found) inside

/-! ### The set -/

/-- Reads on inside brackets. `current` is the innermost open bracket and
`outer` are those around it. -/
def readSetFrom (verbose : Bool) (current : OpenBracket) (outer : List OpenBracket)
    (text : Text) : Option (Pattern × Text) :=
  match _ : skip verbose text with
  | [] => none
  | '[' :: rest =>
      match _ : readAscii? rest with
      | some (set, after) => readSetFrom verbose (current.add set) outer after
      | none =>
          match _ : readOpening verbose rest with
          | some (opened, after) => readSetFrom verbose opened (current :: outer) after
          | none => none
  | ']' :: rest =>
      match outer with
      | [] => some (.set current.negated current.content, rest)
      | parent :: outer =>
          readSetFrom verbose (parent.add (.bracket current.negated current.content)) outer rest
  | '&' :: '&' :: rest => readSetFrom verbose (current.operate .intersection) outer rest
  | '-' :: '-' :: rest => readSetFrom verbose (current.operate .difference) outer rest
  | '~' :: '~' :: rest => readSetFrom verbose (current.operate .symmetricDifference) outer rest
  | other =>
      match _ : readRange verbose other with
      | some (set, after) => readSetFrom verbose (current.add set) outer after
      | none => none
termination_by text.length
decreasing_by
  all_goals have skipped := length_skip_le verbose text
  · have := length_lt_of_readAscii? (by assumption)
    grind
  · have := length_le_of_readOpening (by assumption)
    grind
  · grind
  · grind
  · grind
  · grind
  · have := length_lt_of_readRange (by assumption)
    grind

/-- Reads a set after its opening bracket. -/
def readBracket (verbose : Bool) (text : Text) : Option (Pattern × Text) :=
  (readOpening verbose text).bind fun (opened, after) => readSetFrom verbose opened [] after

theorem length_lt_of_readSetFrom {verbose : Bool} {current : OpenBracket}
    {outer : List OpenBracket} {text after : Text} {pattern : Pattern}
    (found : readSetFrom verbose current outer text = some (pattern, after)) :
    after.length < text.length := by
  fun_induction readSetFrom verbose current outer text <;>
    grind [length_skip_le, → length_lt_of_readAscii?, → length_le_of_readOpening,
      → length_lt_of_readRange]

/-- A set takes at least one character after its opening bracket. -/
theorem length_lt_of_readBracket {verbose : Bool} {text after : Text} {pattern : Pattern}
    (found : readBracket verbose text = some (pattern, after)) :
    after.length < text.length := by
  obtain ⟨⟨opened, remaining⟩, opening, read⟩ := Option.bind_eq_some_iff.1 found
  have := length_le_of_readOpening opening
  have := length_lt_of_readSetFrom read
  omega

end PatternReader

end LineTemplate
