import LineTemplate.Pattern.Syntax
import LineTemplate.Pattern.Reader
import LineTemplate.Text.Class

/-!
Contract: what regular expressions match.

Owns:
- places in a text, and the steps that take one character;
- the characters that a class stands for, with and without regard to case;
- `Pattern.Passes`, the stretches that a regular expression matches, and
  `Pattern.Matches`, for whole texts.

Does not own: which of several matches a search would find, and which characters
have a Unicode property; that is a parameter.
-/

namespace LineTemplate

/-! ### Places -/

/-- A place in a text. -/
structure Place where
  /-- What stands before it, the nearest character first. -/
  before : Text
  after : Text
deriving DecidableEq, Repr

namespace Place

def start (text : Text) : Place := ⟨[], text⟩

def stop (text : Text) : Place := ⟨text.reverse, []⟩

/-- A character stands between two neighbouring places. -/
def Takes (start : Place) (c : Char) (stop : Place) : Prop :=
  start.after = c :: stop.after ∧ stop.before = c :: start.before

end Place

/-! ### Flags -/

/-- The flags that bear on matching. -/
structure MatchFlags where
  ignoreCase : Bool
  multiLine : Bool
  dotMatchesNewline : Bool
  unicode : Bool
  carriageReturn : Bool
deriving DecidableEq, Repr

namespace MatchFlags

def initial : MatchFlags := ⟨false, false, false, true, false⟩

/-- The flags after some settings. -/
def set (flags : MatchFlags) (settings : FlagSettings) : MatchFlags where
  ignoreCase := (settings.lookup .ignoreCase).getD flags.ignoreCase
  multiLine := (settings.lookup .multiLine).getD flags.multiLine
  dotMatchesNewline := (settings.lookup .dotMatchesNewline).getD flags.dotMatchesNewline
  unicode := (settings.lookup .unicode).getD flags.unicode
  carriageReturn := (settings.lookup .carriageReturn).getD flags.carriageReturn

def inside (flags : MatchFlags) : GroupKind → MatchFlags
  | .capture _ => flags
  | .plain settings => flags.set settings

/-- The representative of a character among those that count as the same. Case
is regarded unless the flags say otherwise; bytes only know the case of
unaccented letters. -/
def representative (flags : MatchFlags) (c : Char) : Char :=
  if !flags.ignoreCase then c
  else if flags.unicode || c.toNat < 128 then Text.fold c
  else c

/-- A character counts as the same as a member of a set. -/
def Folds (flags : MatchFlags) (set : Char → Prop) (c : Char) : Prop :=
  ∃ member, set member ∧ flags.representative member = flags.representative c

end MatchFlags

/-! ### Characters -/

/-- The characters that a query for Unicode properties stands for. -/
abbrev PropertyMeaning := PropertyQuery → Char → Prop

def Unless (negated : Bool) (condition : Prop) : Prop :=
  if negated then ¬condition else condition

namespace Shorthand

def holds (unicode : Bool) : Shorthand → Char → Bool
  | .digit, c => if unicode then Text.isDecimalDigit c else Text.isDigit c
  | .space, c => if unicode then Text.isBlank c else Text.isBlank c && c.toNat < 128
  | .word, c => if unicode then Text.isWord c else Text.isNameChar c

end Shorthand

namespace AsciiClass

def holds : AsciiClass → Char → Bool
  | .alnum, c => Text.isLetter c || Text.isDigit c
  | .alpha, c => Text.isLetter c
  | .ascii, c => c.toNat < 128
  | .blank, c => c = ' ' || c = '\t'
  | .cntrl, c => c.toNat < 32 || c.toNat = 127
  | .digit, c => Text.isDigit c
  | .graph, c => 33 ≤ c.toNat && c.toNat ≤ 126
  | .lower, c => Text.isLower c
  | .print, c => 32 ≤ c.toNat && c.toNat ≤ 126
  | .punct, c =>
      33 ≤ c.toNat && c.toNat ≤ 126 && !(Text.isLetter c || Text.isDigit c)
  | .space, c => Text.isBlank c && c.toNat < 128
  | .upper, c => Text.isUpper c
  | .word, c => Text.isNameChar c
  | .xdigit, c => Text.isDigit c || ('a' ≤ c && c ≤ 'f') || ('A' ≤ c && c ≤ 'F')

end AsciiClass

namespace CharSet

/-- The characters of a set. What stands in brackets of its own is closed under
the change of case, if case is ignored, before it is negated; so are the two
sides of a combination. -/
def Holds (meaning : PropertyMeaning) (flags : MatchFlags) : CharSet → Char → Prop
  | .empty, _ => False
  | .literal member _, c => c = member
  | .range first _ last _, c => first ≤ c ∧ c ≤ last
  | .ascii name negated, c => Unless negated (flags.Folds (fun member => name.holds member) c)
  | .shorthand name negated, c => Unless negated (name.holds flags.unicode c)
  | .property query negated, c => Unless negated (flags.Folds (meaning query) c)
  | .bracket negated inner, c => Unless negated (flags.Folds (inner.Holds meaning flags) c)
  | .union left right, c => left.Holds meaning flags c ∨ right.Holds meaning flags c
  | .combined .intersection left right, c =>
      flags.Folds (left.Holds meaning flags) c ∧ flags.Folds (right.Holds meaning flags) c
  | .combined .difference left right, c =>
      flags.Folds (left.Holds meaning flags) c ∧ ¬flags.Folds (right.Holds meaning flags) c
  | .combined .symmetricDifference left right, c =>
      ¬(flags.Folds (left.Holds meaning flags) c ↔ flags.Folds (right.Holds meaning flags) c)

end CharSet

/-! ### Assertions -/

namespace Place

/-- Whether a character that passes a test stands right before the place. -/
def isAfter (place : Place) (test : Char → Bool) : Bool := place.before.head?.any test

/-- Whether a character that passes a test follows the place. -/
def isBefore (place : Place) (test : Char → Bool) : Bool := place.after.head?.any test

/-- Whether a line begins at the place. A carriage return and a newline end a
line together, where carriage returns count. -/
def beginsLine (place : Place) (flags : MatchFlags) : Bool :=
  place.before.isEmpty ||
    (flags.multiLine &&
      (place.isAfter (· = '\n') ||
        (flags.carriageReturn && place.isAfter (· = '\r') && !place.isBefore (· = '\n'))))

def endsLine (place : Place) (flags : MatchFlags) : Bool :=
  place.after.isEmpty ||
    (flags.multiLine &&
      (if flags.carriageReturn then
        place.isBefore (· = '\r') || (place.isBefore (· = '\n') && !place.isAfter (· = '\r'))
      else place.isBefore (· = '\n')))

end Place

namespace Assertion

def holds (flags : MatchFlags) (assertion : Assertion) (place : Place) : Bool :=
  let wordBefore := place.isAfter (Shorthand.word.holds flags.unicode)
  let wordAfter := place.isBefore (Shorthand.word.holds flags.unicode)
  match assertion with
  | .lineStart => place.beginsLine flags
  | .lineEnd => place.endsLine flags
  | .textStart => place.before.isEmpty
  | .textEnd => place.after.isEmpty
  | .wordBoundary => wordBefore != wordAfter
  | .noWordBoundary => wordBefore == wordAfter
  | .wordStart => !wordBefore && wordAfter
  | .wordEnd => wordBefore && !wordAfter
  | .wordStartHalf => !wordBefore
  | .wordEndHalf => !wordAfter

end Assertion

/-! ### Matches -/

namespace Atom

/-- Whether a dot stands for a character. -/
def dotTakes (flags : MatchFlags) (c : Char) : Bool :=
  flags.dotMatchesNewline || (c != '\n' && !(flags.carriageReturn && c = '\r'))

/-- The stretches that an atom matches. -/
def Passes (meaning : PropertyMeaning) (flags : MatchFlags) (atom : Atom)
    (start stop : Place) : Prop :=
  match atom with
  | .literal member _ => ∃ c, start.Takes c stop ∧ flags.Folds (· = member) c
  | .anyChar => ∃ c, start.Takes c stop ∧ dotTakes flags c
  | .assertion condition => start = stop ∧ condition.holds flags start
  | .shorthand name negated =>
      ∃ c, start.Takes c stop ∧ Unless negated (name.holds flags.unicode c)
  | .property query negated =>
      ∃ c, start.Takes c stop ∧ Unless negated (flags.Folds (meaning query) c)

end Atom

namespace Pattern

/-- A stretch that consists of a number of stretches. -/
def Iterates (Step : Place → Place → Prop) : Nat → Place → Place → Prop
  | 0, start, stop => start = stop
  | count + 1, start, stop => ∃ middle, Step start middle ∧ Iterates Step count middle stop

/-- The flags behind a part of a regular expression. Flags set inside a group end
with it. -/
def flagsAfter (flags : MatchFlags) : Pattern → MatchFlags
  | .flags settings => flags.set settings
  | .sequence first rest => rest.flagsAfter (first.flagsAfter flags)
  | .choice first rest => rest.flagsAfter (first.flagsAfter flags)
  | _ => flags

/-- The stretches of a text that a regular expression matches. -/
def Passes (meaning : PropertyMeaning) (flags : MatchFlags) :
    Pattern → (start stop : Place) → Prop
  | .empty, start, stop => start = stop
  | .atom single, start, stop => single.Passes meaning flags start stop
  | .flags _, start, stop => start = stop
  | .set negated inner, start, stop =>
      ∃ c, start.Takes c stop ∧ Unless negated (flags.Folds (inner.Holds meaning flags) c)
  | .repeated body least most _, start, stop =>
      ∃ count, least ≤ count ∧ (∀ limit ∈ most, count ≤ limit) ∧
        Iterates (body.Passes meaning flags) count start stop
  | .group kind body, start, stop => body.Passes meaning (flags.inside kind) start stop
  | .sequence first rest, start, stop =>
      ∃ middle, first.Passes meaning flags start middle ∧
        rest.Passes meaning (first.flagsAfter flags) middle stop
  | .choice first rest, start, stop =>
      first.Passes meaning flags start stop ∨
        rest.Passes meaning (first.flagsAfter flags) start stop

/-- A regular expression matches a whole text. -/
def Matches (meaning : PropertyMeaning) (pattern : Pattern) (text : Text) : Prop :=
  pattern.Passes meaning .initial (.start text) (.stop text)

/-- A written regular expression matches a whole text. -/
def WrittenMatches (meaning : PropertyMeaning) (written text : Text) : Prop :=
  ∃ pattern, read? written = some pattern ∧ pattern.Matches meaning text

end Pattern

end LineTemplate
