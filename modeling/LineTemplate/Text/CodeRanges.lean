/-!
Contract: sets of characters given by ascending ranges of code points.

Owns: the type of such tables and their membership test.

Does not own: any particular table.
-/

namespace LineTemplate

/-- A set of characters, as ranges of code points with both ends included.
The ranges of a table are in ascending order. -/
structure CodeRanges where
  ranges : List (Nat × Nat)

namespace CodeRanges

/-- Looks a code point up in ascending ranges, stopping at the first range
that begins above it. -/
def holdsCode (code : Nat) : List (Nat × Nat) → Bool
  | [] => false
  | (first, last) :: rest =>
      if code < first then false
      else if code ≤ last then true
      else holdsCode code rest

def holds (table : CodeRanges) (c : Char) : Bool :=
  holdsCode c.toNat table.ranges

end CodeRanges

end LineTemplate
