import LineTemplate.Text.Basic

/-!
Contract: regular expressions as trees.

Owns:
- the tree of a regular expression and of a bracketed set of characters;
- sequences and alternations as right-nested pairs;
- the groups that capture, in order;
- the nesting depth of a tree.

Does not own: the written form, which trees are acceptable, and what they match.
-/

namespace LineTemplate

/-- A switch that changes how a regular expression is read or matched. -/
inductive PatternFlag where
  | ignoreCase
  | multiLine
  | dotMatchesNewline
  | swapGreed
  | unicode
  | carriageReturn
  | verbose
deriving DecidableEq, Repr

/-- The flags that one place turns on or off, in order. -/
abbrev FlagSettings := List (PatternFlag × Bool)

/-- A condition on a place in the text, which takes no character. -/
inductive Assertion where
  | lineStart
  | lineEnd
  | textStart
  | textEnd
  | wordBoundary
  | noWordBoundary
  | wordStart
  | wordEnd
  | wordStartHalf
  | wordEndHalf
deriving DecidableEq, Repr

/-- The classes of characters that have a one-letter escape. -/
inductive Shorthand where
  | digit
  | space
  | word
deriving DecidableEq, Repr

/-- How a class of characters is asked for by its Unicode properties. -/
inductive PropertyQuery where
  /-- By a property, a general category or a script. -/
  | named (name : Text)
  /-- By the value of a property. -/
  | valued (property value : Text)
deriving DecidableEq, Repr

/-- What an unbracketed character or escape stands for. -/
inductive Atom where
  /-- A character. `asByte` says that it was written as two hexadecimal digits,
  which name a byte where characters are bytes. -/
  | literal (c : Char) (asByte : Bool)
  | anyChar
  | assertion (assertion : Assertion)
  | shorthand (shorthand : Shorthand) (negated : Bool)
  | property (query : PropertyQuery) (negated : Bool)
deriving DecidableEq, Repr

/-- How two sets of characters are combined. -/
inductive SetOperation where
  | intersection
  | difference
  | symmetricDifference
deriving DecidableEq, Repr

/-- The classes of ASCII characters that have a name in brackets. -/
inductive AsciiClass where
  | alnum
  | alpha
  | ascii
  | blank
  | cntrl
  | digit
  | graph
  | lower
  | print
  | punct
  | space
  | upper
  | word
  | xdigit
deriving DecidableEq, Repr

/-- What stands between the brackets of a set of characters. -/
inductive CharSet where
  | empty
  | literal (c : Char) (asByte : Bool)
  /-- Both ends are members. -/
  | range (first : Char) (firstAsByte : Bool) (last : Char) (lastAsByte : Bool)
  | ascii (name : AsciiClass) (negated : Bool)
  | shorthand (shorthand : Shorthand) (negated : Bool)
  | property (query : PropertyQuery) (negated : Bool)
  | bracket (negated : Bool) (inner : CharSet)
  | union (left right : CharSet)
  | combined (operation : SetOperation) (left right : CharSet)
deriving DecidableEq, Repr

/-- What the parentheses of a group are for. -/
inductive GroupKind where
  /-- The group captures, under its name if it has one. -/
  | capture (name : Option Text)
  /-- The group only holds together, with flags of its own. -/
  | plain (settings : FlagSettings)
deriving DecidableEq, Repr

/-- A regular expression. -/
inductive Pattern where
  | empty
  | atom (atom : Atom)
  | flags (settings : FlagSettings)
  | set (negated : Bool) (inner : CharSet)
  /-- Repetition between `least` and `most` times; without `most`, any number. -/
  | repeated (body : Pattern) (least : Nat) (most : Option Nat) (greedy : Bool)
  | group (kind : GroupKind) (body : Pattern)
  | sequence (first rest : Pattern)
  | choice (first rest : Pattern)
deriving DecidableEq, Repr

namespace CharSet

def ofMembers : List CharSet → CharSet
  | [] => .empty
  | [member] => member
  | member :: next :: more => .union member (ofMembers (next :: more))

/-- The nesting depth. Every bracket, every combination and every list of two
or more members counts one; `inList` says that the set is the rest of a list
that is counted already. -/
def depth (inList : Bool) : CharSet → Nat
  | .empty => 0
  | .literal _ _ => 0
  | .range _ _ _ _ => 0
  | .ascii _ _ => 0
  | .shorthand _ _ => 0
  | .property _ _ => 0
  | .bracket _ inner => 1 + inner.depth false
  | .union left right => (if inList then 0 else 1) + max (left.depth false) (right.depth true)
  | .combined _ left right => 1 + max (left.depth false) (right.depth false)

end CharSet

namespace Pattern

/-- The items of a branch, one after the other. -/
def ofItems : List Pattern → Pattern
  | [] => .empty
  | [item] => item
  | item :: next :: more => .sequence item (ofItems (next :: more))

/-- The choice between branches. -/
def ofBranches : List Pattern → Pattern
  | [] => .empty
  | [branch] => branch
  | branch :: next :: more => .choice branch (ofBranches (next :: more))

/-- Where a tree stands below a list of items or branches that is counted
already. -/
inductive ListPosition where
  | outside
  | inSequence
  | inChoice
deriving DecidableEq, Repr

/-- The nesting depth. Every group, repetition and bracket, every sequence of
two or more items and every choice counts one. -/
def depth (position : ListPosition) : Pattern → Nat
  | .empty => 0
  | .atom _ => 0
  | .flags _ => 0
  | .set _ inner => 1 + inner.depth false
  | .repeated body _ _ _ => 1 + body.depth .outside
  | .group _ body => 1 + body.depth .outside
  | .sequence first rest =>
      (if position = .inSequence then 0 else 1) +
        max (first.depth .outside) (rest.depth .inSequence)
  | .choice first rest =>
      (if position = .inChoice then 0 else 1) +
        max (first.depth .outside) (rest.depth .inChoice)

/-- The capturing groups in the order in which they open, each with its name. -/
def captures : Pattern → List (Option Text)
  | .empty => []
  | .atom _ => []
  | .flags _ => []
  | .set _ _ => []
  | .repeated body _ _ _ => body.captures
  | .group (.capture name) body => name :: body.captures
  | .group (.plain _) body => body.captures
  | .sequence first rest => first.captures ++ rest.captures
  | .choice first rest => first.captures ++ rest.captures

def captureNames (pattern : Pattern) : List Text := pattern.captures.filterMap id

end Pattern

end LineTemplate
