import LineTemplate.Pattern.Reader.Bracket
import LineTemplate.Pattern.Reader.Group

/-!
Contract: the written form of regular expressions.

Owns: `Pattern.read?`, which gives the tree of a text, or none if the text is
not the written form of any.

Does not own: conditions on the finished tree, such as distinct names of groups.

A text is read from left to right. The reader keeps the groups that are open and
the branches and items of the innermost one; each step takes at least one
character. In verbose mode, white space and comments between the items are
skipped.
-/

namespace LineTemplate

namespace PatternReader

/-- What is known of a group around the place that is read. -/
structure Surrounding where
  kind : GroupKind
  /-- The finished branches, last first. -/
  branches : List Pattern
  /-- The items of the branch, last first. -/
  items : List Pattern
  verbose : Bool
deriving Repr

/-- What is known at one place of a text. -/
structure ReaderState where
  /-- The groups around the innermost one, from the inside out. -/
  surrounding : List Surrounding
  /-- The finished branches of the innermost group, last first. -/
  branches : List Pattern
  /-- The items of its current branch, last first. -/
  items : List Pattern
  verbose : Bool
deriving Repr

namespace ReaderState

def start : ReaderState := ⟨[], [], [], false⟩

def add (state : ReaderState) (item : Pattern) : ReaderState :=
  { state with items := item :: state.items }

def content (state : ReaderState) : Pattern :=
  Pattern.ofBranches (Pattern.ofItems state.items.reverse :: state.branches).reverse

def endBranch (state : ReaderState) : ReaderState :=
  { state with
    branches := Pattern.ofItems state.items.reverse :: state.branches
    items := [] }

def opened (state : ReaderState) : GroupOpening → ReaderState
  | .group kind =>
      let verbose :=
        match kind with
        | .capture _ => state.verbose
        | .plain settings => (settings.lookup .verbose).getD state.verbose
      ⟨⟨kind, state.branches, state.items, state.verbose⟩ :: state.surrounding, [], [], verbose⟩
  | .flags settings =>
      { state.add (.flags settings) with
        verbose := (settings.lookup .verbose).getD state.verbose }

/-- Leaves a group, if one is open. -/
def close? (state : ReaderState) : Option ReaderState :=
  match state.surrounding with
  | [] => none
  | outer :: more =>
      some ⟨more, outer.branches, .group outer.kind state.content :: outer.items, outer.verbose⟩

/-- Repeats the last item. There must be one, and it must not be a setting of
flags. -/
def repeat? (state : ReaderState) (repetition : Repetition) : Option ReaderState :=
  match state.items with
  | [] => none
  | .flags _ :: _ => none
  | item :: items =>
      some { state with
        items := .repeated item repetition.least repetition.most repetition.greedy :: items }

/-- The whole regular expression, if no group is open. -/
def finish? (state : ReaderState) : Option Pattern :=
  if state.surrounding.isEmpty then some state.content else none

end ReaderState

def startsRepetition (c : Char) : Bool := c = '*' || c = '+' || c = '?' || c = '{'

def step (state : ReaderState) (first : Char) (rest : Text) : Option (ReaderState × Text) :=
  if first = '(' then
    (readGroup state.verbose rest).map fun (opening, after) => (state.opened opening, after)
  else if first = ')' then state.close?.map fun state => (state, rest)
  else if first = '|' then some (state.endBranch, rest)
  else if first = '[' then
    (readBracket state.verbose rest).map fun (set, after) => (state.add set, after)
  else if startsRepetition first then
    (readRepetition state.verbose (first :: rest)).bind fun (repetition, after) =>
      (state.repeat? repetition).map fun state => (state, after)
  else if first = '\\' then
    (readEscape state.verbose rest).map fun (atom, after) => (state.add (.atom atom), after)
  else if first = '.' then some (state.add (.atom .anyChar), rest)
  else if first = '^' then some (state.add (.atom (.assertion .lineStart)), rest)
  else if first = '$' then some (state.add (.atom (.assertion .lineEnd)), rest)
  else some (state.add (.atom (.literal first false)), rest)

theorem length_le_of_step {state next : ReaderState} {first : Char} {rest after : Text}
    (found : step state first rest = some (next, after)) : after.length ≤ rest.length := by
  unfold step at found
  split at found
  · obtain ⟨⟨opening, remaining⟩, read, same⟩ := Option.map_eq_some_iff.1 found
    have := length_le_of_readGroup read
    grind
  split at found
  · obtain ⟨_, _, same⟩ := Option.map_eq_some_iff.1 found
    grind
  split at found
  · grind
  split at found
  · obtain ⟨⟨set, remaining⟩, read, same⟩ := Option.map_eq_some_iff.1 found
    have := length_lt_of_readBracket read
    grind
  split at found
  · obtain ⟨⟨repetition, remaining⟩, read, made⟩ := Option.bind_eq_some_iff.1 found
    obtain ⟨_, _, same⟩ := Option.map_eq_some_iff.1 made
    have := length_lt_of_readRepetition read
    grind
  split at found
  · obtain ⟨⟨atom, remaining⟩, read, same⟩ := Option.map_eq_some_iff.1 found
    have := length_lt_of_readEscape read
    grind
  · grind

def readFrom (state : ReaderState) (text : Text) : Option Pattern :=
  match _ : skip state.verbose text with
  | [] => state.finish?
  | first :: rest =>
      match _ : step state first rest with
      | some (next, after) => readFrom next after
      | none => none
termination_by text.length
decreasing_by
  have skipped := length_skip_le state.verbose text
  have := length_le_of_step (by assumption)
  grind

end PatternReader

namespace Pattern

/-- The tree of a text, if the text is the written form of a regular
expression. -/
def read? (text : Text) : Option Pattern := PatternReader.readFrom .start text

end Pattern

end LineTemplate
