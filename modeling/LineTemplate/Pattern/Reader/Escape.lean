import LineTemplate.Pattern.Reader.Number

/-!
Contract: what a backslash introduces in a regular expression.

Owns: `PatternReader.readEscape`, and that it takes at least one character.

Does not own: the meaning of properties and assertions.
-/

namespace LineTemplate

namespace PatternReader

/-- Whether a backslash before a character makes it stand for itself: all of
ASCII but letters, digits and the angle brackets. -/
def isEscapable (c : Char) : Bool :=
  c.toNat < 128 && !Text.isLetter c && !Text.isDigit c && c != '<' && c != '>'

/-- The escapes of one character that stand for another character or a place. -/
def letterEscape? : Char → Option Atom
  | 'a' => some (.literal '\x07' false)
  | 'f' => some (.literal '\x0C' false)
  | 't' => some (.literal '\t' false)
  | 'n' => some (.literal '\n' false)
  | 'r' => some (.literal '\r' false)
  | 'v' => some (.literal '\x0B' false)
  | 'A' => some (.assertion .textStart)
  | 'z' => some (.assertion .textEnd)
  | 'B' => some (.assertion .noWordBoundary)
  | '<' => some (.assertion .wordStart)
  | '>' => some (.assertion .wordEnd)
  | 'd' => some (.shorthand .digit false)
  | 'D' => some (.shorthand .digit true)
  | 's' => some (.shorthand .space false)
  | 'S' => some (.shorthand .space true)
  | 'w' => some (.shorthand .word false)
  | 'W' => some (.shorthand .word true)
  | _ => none

/-- Reads the name of a property up to the closing brace. -/
def readBraced (verbose : Bool) : Text → Option (Text × Text)
  | [] => none
  | first :: rest =>
      if first = '}' then some ([], rest)
      else
        (readBraced verbose (skip verbose rest)).map fun (name, after) => (first :: name, after)
termination_by text => text.length
decreasing_by
  have := length_skip_le verbose rest
  simp only [List.length_cons]
  omega

/-- The query between the braces, and whether it asks for the other
characters. -/
def queryOf (text : Text) : PropertyQuery × Bool :=
  match Text.splitAtFirst? ['!', '='] text with
  | some (property, value) => (.valued property value, true)
  | none =>
      match Text.splitAtFirst? [':'] text with
      | some (property, value) => (.valued property value, false)
      | none =>
          match Text.splitAtFirst? ['='] text with
          | some (property, value) => (.valued property value, false)
          | none => (.named text, false)

/-- Reads a property: one character, or a query between braces. -/
def readProperty (verbose negated : Bool) (text : Text) : Option (Atom × Text) :=
  match skip verbose text with
  | [] => none
  | '{' :: rest =>
      (readBraced verbose (skip verbose rest)).map fun (name, after) =>
        let (query, differs) := queryOf name
        (.property query (negated != differs), after)
  | '\\' :: _ => none
  | name :: rest => some (.property (.named [name]) negated, skip verbose rest)

/-- Whether a character can belong to the name of a special word boundary. -/
def isBoundaryChar (c : Char) : Bool := Text.isLetter c || c = '-'

def readBoundaryName (verbose : Bool) : Text → Text × Text
  | [] => ([], [])
  | first :: rest =>
      if isBoundaryChar first then
        let (name, after) := readBoundaryName verbose (skip verbose rest)
        (first :: name, after)
      else ([], first :: rest)
termination_by text => text.length
decreasing_by
  have := length_skip_le verbose rest
  simp only [List.length_cons]
  omega

def boundary? (name : Text) : Option Assertion :=
  if name = "start".toList then some .wordStart
  else if name = "end".toList then some .wordEnd
  else if name = "start-half".toList then some .wordStartHalf
  else if name = "end-half".toList then some .wordEndHalf
  else none

/-- Reads what follows a word boundary. A brace with a name in it makes the
boundary special; any other brace is left to be read as a repetition. -/
def readBoundary (verbose : Bool) (text : Text) : Option (Atom × Text) :=
  match text with
  | '{' :: rest =>
      match skip verbose rest with
      | [] => none
      | first :: more =>
          if isBoundaryChar first then
            match readBoundaryName verbose (first :: more) with
            | (name, '}' :: after) => (boundary? name).map fun special =>
                (.assertion special, after)
            | _ => none
          else some (.assertion .wordBoundary, text)
  | _ => some (.assertion .wordBoundary, text)

def readEscape (verbose : Bool) : Text → Option (Atom × Text)
  | [] => none
  | 'x' :: rest => readHex verbose 2 rest
  | 'u' :: rest => readHex verbose 4 rest
  | 'U' :: rest => readHex verbose 8 rest
  | 'p' :: rest => readProperty verbose false rest
  | 'P' :: rest => readProperty verbose true rest
  | 'b' :: rest => readBoundary verbose rest
  | first :: rest =>
      if isEscapable first then some (.literal first false, rest)
      else (letterEscape? first).map fun atom => (atom, rest)

/-! ### What the readers take -/

theorem length_le_of_readHexFixed {verbose : Bool} {count value result : Nat}
    {text after : Text} (found : readHexFixed verbose count value text = some (result, after)) :
    after.length ≤ text.length := by
  fun_induction readHexFixed verbose count value text with
  | case1 => simp_all
  | case2 => simp at found
  | case3 value count first rest inductionHypothesis =>
      obtain ⟨digit, _, read⟩ := Option.bind_eq_some_iff.1 found
      have := inductionHypothesis digit read
      have := length_skip_le verbose rest
      simp only [List.length_cons]
      omega

theorem length_le_of_readHexBraced {verbose started : Bool} {value result : Nat}
    {text after : Text}
    (found : readHexBraced verbose started value text = some (result, after)) :
    after.length ≤ text.length := by
  fun_induction readHexBraced verbose started value text <;>
    grind [length_skip_le]

theorem length_le_of_readHex {verbose : Bool} {count : Nat} {text after : Text} {atom : Atom}
    (found : readHex verbose count text = some (atom, after)) :
    after.length ≤ text.length := by
  have skipped := length_skip_le verbose text
  unfold readHex at found
  split at found
  · simp at found
  · rename_i rest opened
    obtain ⟨⟨value, remaining⟩, read, made⟩ := Option.bind_eq_some_iff.1 found
    obtain ⟨_, _, same⟩ := Option.map_eq_some_iff.1 made
    have := length_le_of_readHexBraced read
    have := length_skip_le verbose rest
    grind
  · obtain ⟨⟨value, remaining⟩, read, made⟩ := Option.bind_eq_some_iff.1 found
    obtain ⟨_, _, same⟩ := Option.map_eq_some_iff.1 made
    have := length_le_of_readHexFixed read
    grind

theorem length_le_of_readBraced {verbose : Bool} {text name after : Text}
    (found : readBraced verbose text = some (name, after)) : after.length ≤ text.length := by
  fun_induction readBraced verbose text generalizing name with
  | case1 => simp at found
  | case2 => simp_all
  | case3 first rest other inductionHypothesis =>
      obtain ⟨⟨stem, remaining⟩, read, same⟩ := Option.map_eq_some_iff.1 found
      simp only [Prod.mk.injEq] at same
      rw [same.2] at read
      have := inductionHypothesis read
      have := length_skip_le verbose rest
      simp only [List.length_cons]
      omega

theorem length_le_of_readProperty {verbose negated : Bool} {text after : Text} {atom : Atom}
    (found : readProperty verbose negated text = some (atom, after)) :
    after.length ≤ text.length := by
  have skipped := length_skip_le verbose text
  unfold readProperty at found
  split at found
  · simp at found
  · rename_i rest opened
    obtain ⟨⟨name, remaining⟩, read, same⟩ := Option.map_eq_some_iff.1 found
    have := length_le_of_readBraced read
    have := length_skip_le verbose rest
    grind
  · simp at found
  · rename_i name rest _ _ single
    have := length_skip_le verbose rest
    grind

theorem length_readBoundaryName_le (verbose : Bool) (text : Text) :
    (readBoundaryName verbose text).2.length ≤ text.length := by
  fun_induction readBoundaryName verbose text with
  | case1 => simp
  | case2 first rest belongs name after same inductionHypothesis =>
      have := length_skip_le verbose rest
      grind
  | case3 => simp

theorem length_le_of_readBoundary {verbose : Bool} {text after : Text} {atom : Atom}
    (found : readBoundary verbose text = some (atom, after)) : after.length ≤ text.length := by
  unfold readBoundary at found
  split at found
  · rename_i rest
    have skipped := length_skip_le verbose rest
    split at found
    · simp at found
    · rename_i first more inside
      split at found
      · have := length_readBoundaryName_le verbose (first :: more)
        split at found
        · obtain ⟨_, _, same⟩ := Option.map_eq_some_iff.1 found
          grind
        · simp at found
      · grind
  · grind

theorem length_lt_of_readEscape {verbose : Bool} {text after : Text} {atom : Atom}
    (found : readEscape verbose text = some (atom, after)) : after.length < text.length := by
  unfold readEscape at found
  split at found
  · simp at found
  · have := length_le_of_readHex found
    simp only [List.length_cons]
    omega
  · have := length_le_of_readHex found
    simp only [List.length_cons]
    omega
  · have := length_le_of_readHex found
    simp only [List.length_cons]
    omega
  · have := length_le_of_readProperty found
    simp only [List.length_cons]
    omega
  · have := length_le_of_readProperty found
    simp only [List.length_cons]
    omega
  · have := length_le_of_readBoundary found
    simp only [List.length_cons]
    omega
  · split at found
    · grind
    · obtain ⟨_, _, same⟩ := Option.map_eq_some_iff.1 found
      grind

end PatternReader

end LineTemplate
