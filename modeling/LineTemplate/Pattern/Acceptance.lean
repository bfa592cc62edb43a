import LineTemplate.Annotation.Expansion
import LineTemplate.Pattern.Property
import LineTemplate.Pattern.Reader

/-!
Contract: which texts are acceptable regular expressions.

Owns:
- the conditions on a tree: nesting, distinct names of groups, known properties,
  and nothing that could match half a character where characters are bytes;
- an estimate of the space that a regular expression takes when compiled, and
  the limit on it;
- `Pattern.judge`, the judge of the built-in engine.

Does not own: the written form; the exact space, which the estimate stands for
when the program runs and no more.
-/

namespace LineTemplate

/-- Whether a character fits into seven bits. -/
def isSevenBit (c : Char) : Bool := c.toNat < 128

namespace Atom

/-- Whether an atom is allowed. Without the flag for Unicode, characters are
bytes: bytes beyond seven bits, the dot, negations and properties would reach
into the middle of a character. -/
def isAllowed (unicode : Bool) : Atom → Bool
  | .literal c asByte => unicode || !asByte || isSevenBit c
  | .anyChar => unicode
  | .assertion _ => true
  | .shorthand _ negated => unicode || !negated
  | .property query _ => unicode && query.isKnown

end Atom

namespace CharSet

/-- Whether a set is allowed, likewise. -/
def isAllowed (unicode : Bool) : CharSet → Bool
  | .empty => true
  | .literal c _ => unicode || isSevenBit c
  | .range first _ last _ => unicode || (isSevenBit first && isSevenBit last)
  | .ascii _ negated => unicode || !negated
  | .shorthand _ negated => unicode || !negated
  | .property query _ => unicode && query.isKnown
  | .bracket negated inner => (unicode || !negated) && inner.isAllowed unicode
  | .union left right => left.isAllowed unicode && right.isAllowed unicode
  | .combined _ left right => left.isAllowed unicode && right.isAllowed unicode

end CharSet

namespace Pattern

/-- The flag for Unicode after some settings. -/
def unicodeUnder (settings : FlagSettings) (unicode : Bool) : Bool :=
  (settings.lookup .unicode).getD unicode

/-- The flag for Unicode behind a part of a regular expression. Flags set inside
a group end with it. -/
def unicodeAfter (unicode : Bool) : Pattern → Bool
  | .flags settings => unicodeUnder settings unicode
  | .sequence first rest => rest.unicodeAfter (first.unicodeAfter unicode)
  | .choice first rest => rest.unicodeAfter (first.unicodeAfter unicode)
  | _ => unicode

/-- The flag for Unicode at the beginning of a group. -/
def unicodeInside (unicode : Bool) : GroupKind → Bool
  | .capture _ => unicode
  | .plain settings => unicodeUnder settings unicode

/-- Whether every part is allowed where it stands. -/
def isAllowed (unicode : Bool) : Pattern → Bool
  | .empty => true
  | .atom single => single.isAllowed unicode
  | .flags _ => true
  | .set negated inner => (unicode || !negated) && inner.isAllowed unicode
  | .repeated body _ _ _ => body.isAllowed unicode
  | .group kind body => body.isAllowed (unicodeInside unicode kind)
  | .sequence first rest => first.isAllowed unicode && rest.isAllowed (first.unicodeAfter unicode)
  | .choice first rest => first.isAllowed unicode && rest.isAllowed (first.unicodeAfter unicode)

/-- The greatest nesting depth. -/
def depthLimit : Nat := 250

/-- Whether a tree is a regular expression: it is not nested too deeply, names
its groups apart and holds nothing that is not allowed. -/
def isProper (pattern : Pattern) : Bool :=
  pattern.depth .outside ≤ depthLimit && pattern.captureNames.Nodup && pattern.isAllowed true

end Pattern

/-! ### The space of the compiled form -/

namespace Weight

/-- The space of one step that takes a byte. -/
def byte : Nat := 32

/-- The space of a class of characters. -/
def shorthand (unicode : Bool) : Shorthand → (negated : Bool) → Nat
  | .digit, _ => if unicode then 2000 else 100
  | .space, _ => if unicode then 1000 else 100
  | .word, _ => if unicode then 40000 else 100

def property : Nat := 40000

def atom (unicode : Bool) : Atom → Nat
  | .literal c _ => byte * c.utf8Size
  | .anyChar => 600
  | .assertion _ => byte
  | .shorthand name negated => shorthand unicode name negated
  | .property _ _ => property

def set (unicode : Bool) : CharSet → Nat
  | .empty => byte
  | .literal _ _ => byte
  | .range _ _ _ _ => 2 * byte
  | .ascii _ _ => 4 * byte
  | .shorthand name negated => shorthand unicode name negated
  | .property _ _ => property
  | .bracket _ inner => 1000 + set unicode inner
  | .union left right => set unicode left + set unicode right
  | .combined _ left right => set unicode left + set unicode right

/-- The space of the bounds of a group. Only groups that capture are kept. -/
def group : GroupKind → Nat
  | .capture _ => 2 * byte
  | .plain _ => 0

end Weight

namespace Pattern

/-- Whether a regular expression can match the empty text only. -/
def takesNothing : Pattern → Bool
  | .empty => true
  | .atom (.assertion _) => true
  | .atom _ => false
  | .flags _ => true
  | .set _ _ => false
  | .repeated body _ most _ => most == some 0 || body.takesNothing
  | .group _ body => body.takesNothing
  | .sequence first rest => first.takesNothing && rest.takesNothing
  | .choice first rest => first.takesNothing && rest.takesNothing

/-- The bounds that a repetition is compiled with. What takes nothing is taken
once at most. -/
def bounds (body : Pattern) (least : Nat) (most : Option Nat) : Nat × Option Nat :=
  if body.takesNothing then (min 1 least, some (most.elim 1 (min 1))) else (least, most)

/-- How many copies a repetition between two bounds is compiled to. -/
def copies (least : Nat) : (most : Option Nat) → Nat
  | none => max 1 least
  | some most => most

/-- Behind how many of the copies a repetition may end or go on. -/
def forks (least : Nat) : (most : Option Nat) → Nat
  | none => 1
  | some most => most - least

/-- An estimate of the space of the compiled form, in bytes. The program runs with
it; the theorems about judges leave open what the space is. -/
def weight (unicode : Bool) : Pattern → Nat
  | .empty => Weight.byte
  | .atom single => Weight.atom unicode single
  | .flags _ => 0
  | .set negated inner => (if negated then 1000 else Weight.byte) + Weight.set unicode inner
  | .repeated body least most _ =>
      let (least, most) := body.bounds least most
      copies least most * body.weight unicode + forks least most * Weight.byte
  | .group kind body => Weight.group kind + body.weight (unicodeInside unicode kind)
  | .sequence first rest => first.weight unicode + rest.weight (first.unicodeAfter unicode)
  | .choice first rest =>
      Weight.byte + first.weight unicode + rest.weight (first.unicodeAfter unicode)

/-- The greatest space of a compiled form, in bytes. -/
def weightLimit : Nat := 10485760

/-- Why a text is no acceptable regular expression. -/
inductive Refusal where
  | malformed
  | tooLarge
deriving DecidableEq, Repr

def Refusal.message : Refusal → Text
  | .malformed => "The text is not a regular expression.".toList
  | .tooLarge =>
      "Compiled regex exceeds size limit of ".toList ++ Text.ofNat weightLimit ++
        " bytes.".toList

/-- Why a text is refused, if it is. -/
def refusal? (text : Text) : Option Refusal :=
  match read? text with
  | none => some .malformed
  | some pattern =>
      if !pattern.isProper then some .malformed
      else if weightLimit < pattern.weight true then some .tooLarge
      else none

/-- Accepts the regular expressions within the limit. -/
def judge : PatternJudge := fun text => (refusal? text).map Refusal.message

end Pattern

end LineTemplate
