import LineTemplate.Text.Basic

/-!
Contract: the reading of paths as names between slashes.

Owns:
- the segments of a path, and which of them name something;
- the directory that a path lies in, and the directories above it.

Does not own: what is found at a path.
-/

namespace LineTemplate

namespace Path

/-- The stretches of a path between its slashes. A path that begins with a
slash has an empty first segment. -/
def segments (path : Text) : List Text := path.splitOn '/'

/-- A segment that leads nowhere: the empty one and a single dot. -/
def isIdle (segment : Text) : Bool := segment = [] || segment = ['.']

/-- Segments without the idle ones at their end; the first one always counts. -/
def trimSegments : List Text → List Text
  | [] => []
  | first :: more => first :: (more.reverse.dropWhile isIdle).reverse

def ofSegments (segments : List Text) : Text :=
  if segments = [[]] then ['/'] else ['/'].intercalate segments

/-- The path of the directory that a path lies in: what stands before its last
segment. The root and the empty path lie in no directory. -/
def parent? (path : Text) : Option Text :=
  match trimSegments (segments path) with
  | [] | [[]] => none
  | trimmed => some (ofSegments (trimSegments trimmed.dropLast))

/-- The directories above a path, the nearest first, within a number of steps. -/
def directoriesWithin : Nat → Text → List Text
  | 0, _ => []
  | steps + 1, path =>
      match parent? path with
      | none => []
      | some parent => parent :: directoriesWithin steps parent

/-- The directories above a path, the nearest first. A path has at most as many
of them as it has segments. -/
def directories (path : Text) : List Text := directoriesWithin (segments path).length path

def isAbsolute (path : Text) : Bool := path.head? = some '/'

/-- A path continued from the directory that another one leads to. A slash is put
between them unless one is there; a path that is absolute is not continued from
anywhere. -/
def join (path next : Text) : Text :=
  if isAbsolute next then next
  else if path.getLast?.all fun last => last = '/' then path ++ next
  else path ++ '/' :: next

/-- Whether a path has a name as its only segment, idle ones at the end aside. -/
def isName (name path : Text) : Bool := trimSegments (segments path) = [name]

end Path

end LineTemplate
