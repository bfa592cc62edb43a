import LineTemplate.Pattern.Reader.Number

/-!
Contract: how groups begin, and how often something is repeated, in the written
form of regular expressions.

Owns:
- `PatternReader.readGroup` and the flags and names in it;
- `PatternReader.readRepetition`;
- that both take at least one character.

Does not own: what stands in a group or is repeated.
-/

namespace LineTemplate

namespace PatternReader

/-! ### Repetitions -/

/-- How often something is repeated. -/
structure Repetition where
  least : Nat
  /-- None where there is no limit. -/
  most : Option Nat
  greedy : Bool
deriving DecidableEq, Repr

/-- Numbers of repetitions fit into 32 bits. -/
def countLimit : Nat := Nat.pow 2 32

/-- The repetition between two numbers that are small enough and in order. -/
def repetition? (least : Nat) (most : Option Nat) : Option Repetition :=
  match most with
  | none => if least < countLimit then some ⟨least, none, true⟩ else none
  | some most =>
      if least < countLimit ∧ most < countLimit ∧ least ≤ most then some ⟨least, some most, true⟩
      else none

/-- Reads the second number of a repetition and its closing brace. -/
def readUpper (verbose : Bool) (least : Option Nat) (text : Text) :
    Option (Repetition × Text) :=
  match least, skip verbose text with
  | some least, '}' :: after => (repetition? least none).map fun repetition => (repetition, after)
  | some least, other =>
      match readCount verbose other with
      | (some most, '}' :: after) =>
          (repetition? least (some most)).map fun repetition => (repetition, after)
      | _ => none
  | none, _ => none

/-- Reads the numbers of a repetition up to its closing brace. -/
def readBounds (verbose : Bool) (text : Text) : Option (Repetition × Text) :=
  match readCount verbose (skip verbose text) with
  | (least, ',' :: rest) => readUpper verbose least rest
  | (some count, '}' :: after) =>
      (repetition? count (some count)).map fun repetition => (repetition, after)
  | _ => none

/-- Reads the question mark that makes a repetition take as little as possible. -/
def readLazy (repetition : Repetition) : Text → Repetition × Text
  | '?' :: rest => ({ repetition with greedy := false }, rest)
  | other => (repetition, other)

def readRepetition (verbose : Bool) : Text → Option (Repetition × Text)
  | '*' :: rest => some (readLazy ⟨0, none, true⟩ rest)
  | '+' :: rest => some (readLazy ⟨1, none, true⟩ rest)
  | '?' :: rest => some (readLazy ⟨0, some 1, true⟩ rest)
  | '{' :: rest =>
      (readBounds verbose rest).map fun (repetition, after) =>
        readLazy repetition (skip verbose after)
  | _ => none

/-! ### Groups -/

def flag? : Char → Option PatternFlag
  | 'i' => some .ignoreCase
  | 'm' => some .multiLine
  | 's' => some .dotMatchesNewline
  | 'U' => some .swapGreed
  | 'u' => some .unicode
  | 'R' => some .carriageReturn
  | 'x' => some .verbose
  | _ => none

def settings? (on : Bool) (letters : Text) : Option FlagSettings :=
  letters.mapM fun letter => (flag? letter).map fun flag => (flag, on)

/-- The settings between the question mark and the colon or the parenthesis:
letters to turn on, then a hyphen and letters to turn off. No letter comes
twice, and a hyphen has letters after it. -/
def flagSettings? (letters : Text) : Option FlagSettings :=
  if letters.Nodup then
    match Text.splitAtFirst? ['-'] letters with
    | none => settings? true letters
    | some (_, []) => none
    | some (on, off) => do
        let turnedOn ← settings? true on
        let turnedOff ← settings? false off
        pure (turnedOn ++ turnedOff)
  else none

/-- What an opening parenthesis begins. -/
inductive GroupOpening where
  | group (kind : GroupKind)
  /-- Flags for the rest of the surrounding group. -/
  | flags (settings : FlagSettings)
deriving DecidableEq, Repr

/-- Names of groups: an underscore or a letter, then also numbers, full stops
and square brackets. -/
def isGroupName : Text → Bool
  | [] => false
  | first :: rest =>
      (first = '_' || Text.isAlphabetic first) &&
        rest.all fun c => Text.isAlphanumeric c || "_.[]".toList.contains c

/-- Reads the name of a group up to its closing angle bracket. -/
def readGroupName (text : Text) : Option (GroupOpening × Text) :=
  match text.dropWhile (· != '>') with
  | '>' :: after =>
      let name := text.takeWhile (· != '>')
      if isGroupName name then some (.group (.capture (some name)), after) else none
  | _ => none

def endsFlags (c : Char) : Bool := c = ':' || c = ')'

/-- Reads flags, either of a group or for the rest of the surrounding one. -/
def readFlags (text : Text) : Option (GroupOpening × Text) :=
  let letters := text.takeWhile fun c => !endsFlags c
  match text.dropWhile fun c => !endsFlags c with
  | ':' :: after => (flagSettings? letters).map fun settings => (.group (.plain settings), after)
  | ')' :: after =>
      if letters.isEmpty then none
      else (flagSettings? letters).map fun settings => (.flags settings, after)
  | _ => none

/-- Reads the beginning of a group after its opening parenthesis. There are no
groups that look ahead or behind. -/
def readGroup (verbose : Bool) (text : Text) : Option (GroupOpening × Text) :=
  match skip verbose text with
  | '?' :: '=' :: _ => none
  | '?' :: '!' :: _ => none
  | '?' :: '<' :: '=' :: _ => none
  | '?' :: '<' :: '!' :: _ => none
  | '?' :: 'P' :: '<' :: rest => readGroupName rest
  | '?' :: '<' :: rest => readGroupName rest
  | '?' :: rest => readFlags rest
  | other => some (.group (.capture none), other)

/-! ### What the readers take -/

theorem length_readDigits_le (verbose : Bool) (digits text : Text) :
    (readDigits verbose digits text).2.length ≤ text.length := by
  fun_induction readDigits verbose digits text with
  | case1 => simp
  | case2 digits first rest isDigit inductionHypothesis =>
      have := length_skip_le verbose rest
      simp only [List.length_cons]
      omega
  | case3 => simp

theorem length_readCount_le (verbose : Bool) (text : Text) :
    (readCount verbose text).2.length ≤ text.length := by
  have trimmed : ∀ rest : Text, (Text.trimStart rest).length ≤ rest.length := fun rest =>
    (List.dropWhile_sublist _).length_le
  have := length_readDigits_le verbose [] (Text.trimStart text)
  have := trimmed text
  have := trimmed (readDigits verbose [] (Text.trimStart text)).2
  simp only [readCount]
  omega

theorem length_le_of_readUpper {verbose : Bool} {least : Option Nat} {text after : Text}
    {repetition : Repetition}
    (found : readUpper verbose least text = some (repetition, after)) :
    after.length ≤ text.length := by
  have skipped := length_skip_le verbose text
  unfold readUpper at found
  split at found
  · obtain ⟨_, _, same⟩ := Option.map_eq_some_iff.1 found
    grind
  · have counted := length_readCount_le verbose (skip verbose text)
    split at found
    · obtain ⟨_, _, same⟩ := Option.map_eq_some_iff.1 found
      grind
    · simp at found
  · simp at found

theorem length_le_of_readBounds {verbose : Bool} {text after : Text} {repetition : Repetition}
    (found : readBounds verbose text = some (repetition, after)) :
    after.length ≤ text.length := by
  have skipped := length_skip_le verbose text
  have counted := length_readCount_le verbose (skip verbose text)
  unfold readBounds at found
  split at found
  · have := length_le_of_readUpper found
    grind
  · obtain ⟨_, _, same⟩ := Option.map_eq_some_iff.1 found
    grind
  · simp at found

theorem length_readLazy_le (repetition : Repetition) (text : Text) :
    (readLazy repetition text).2.length ≤ text.length := by
  unfold readLazy
  split <;> simp

theorem length_lt_of_readRepetition {verbose : Bool} {text after : Text}
    {repetition : Repetition}
    (found : readRepetition verbose text = some (repetition, after)) :
    after.length < text.length := by
  unfold readRepetition at found
  split at found
  · rename_i rest
    have := length_readLazy_le ⟨0, none, true⟩ rest
    grind
  · rename_i rest
    have := length_readLazy_le ⟨1, none, true⟩ rest
    grind
  · rename_i rest
    have := length_readLazy_le ⟨0, some 1, true⟩ rest
    grind
  · rename_i rest
    obtain ⟨⟨bounds, remaining⟩, read, same⟩ := Option.map_eq_some_iff.1 found
    have := length_le_of_readBounds read
    have := length_skip_le verbose remaining
    have := length_readLazy_le bounds (skip verbose remaining)
    grind
  · simp at found

theorem length_le_of_readGroupName {text after : Text} {opening : GroupOpening}
    (found : readGroupName text = some (opening, after)) : after.length ≤ text.length := by
  have dropped : (text.dropWhile (· != '>')).length ≤ text.length :=
    (List.dropWhile_sublist _).length_le
  unfold readGroupName at found
  split at found
  · grind
  · simp at found

theorem length_le_of_readFlags {text after : Text} {opening : GroupOpening}
    (found : readFlags text = some (opening, after)) : after.length ≤ text.length := by
  have dropped : (text.dropWhile fun c => !endsFlags c).length ≤ text.length :=
    (List.dropWhile_sublist _).length_le
  unfold readFlags at found
  dsimp only at found
  split at found
  · obtain ⟨_, _, same⟩ := Option.map_eq_some_iff.1 found
    grind
  · split at found
    · simp at found
    · obtain ⟨_, _, same⟩ := Option.map_eq_some_iff.1 found
      grind
  · simp at found

/-- The beginning of a group leaves nothing but what follows it. -/
theorem length_le_of_readGroup {verbose : Bool} {text after : Text} {opening : GroupOpening}
    (found : readGroup verbose text = some (opening, after)) :
    after.length ≤ text.length := by
  have skipped := length_skip_le verbose text
  unfold readGroup at found
  split at found
  · simp at found
  · simp at found
  · simp at found
  · simp at found
  · have := length_le_of_readGroupName found
    grind
  · have := length_le_of_readGroupName found
    grind
  · have := length_le_of_readFlags found
    grind
  · grind

end PatternReader

end LineTemplate
