import LineTemplate.Files.Contents
import LineTemplate.Files.Path

/-!
Contract: a tree of files and directories, and what a path leads to in it.

Owns:
- the tree, what stands at a place in it, and putting something there;
- walking along a path, with the causes for which a walk ends early;
- reading and writing files, and making directories.

Does not own: links, permissions and times, which no tree here has, and writes that
fail once they have begun.
-/

namespace LineTemplate

/-- A place in a tree: the names that lead to it from the root, the last one
first. -/
abbrev Location := List Text

/-- What stands at a place. -/
inductive Entry where
  | directory
  | file (contents : Contents)

/-- The kind of what stands at a place. -/
inductive EntryKind where
  | directory
  | file
deriving DecidableEq, Repr

namespace Entry

def kind : Entry → EntryKind
  | .directory => .directory
  | .file _ => .file

end Entry

/-- A tree, as the entries below its root. The root is a directory. -/
structure FileTree where
  entries : List (Location × Entry)

namespace FileTree

def empty : FileTree := ⟨[]⟩

/-- What stands at a place. -/
def at? (tree : FileTree) (location : Location) : Option Entry :=
  if location = [] then some .directory else tree.entries.lookup location

/-- Whether a directory stands at a place. -/
def isDirectoryAt (tree : FileTree) (location : Location) : Bool :=
  (tree.at? location).map Entry.kind = some .directory

/-- The tree with something put at a place, instead of what stood there. -/
def put (tree : FileTree) (location : Location) (entry : Entry) : FileTree :=
  ⟨(location, entry) :: tree.entries.filter fun other => other.1 ≠ location⟩

/-! ### Walking along a path -/

/-- The longest name, in bytes. -/
def longestName : Nat := 255

/-- The longest path, in bytes. -/
def longestPath : Nat := 4095

/-- A path that is empty, too long or holds the null character leads nowhere. -/
def checkPath (path : Text) : Except FileError Unit :=
  if '\x00' ∈ path then .error .nulInPath
  else if path = [] then .error .notFound
  else if longestPath < Text.byteSize path then .error .nameTooLong
  else .ok ()

/-- The step that a segment takes. Two dots lead to the directory above, and
from the root to the root. -/
def step (tree : FileTree) (location : Location) (segment : Text) :
    Except FileError Location :=
  if !tree.isDirectoryAt location then .error .notDirectory
  else if Path.isIdle segment then .ok location
  else if segment = ['.', '.'] then .ok location.tail
  else if longestName < Text.byteSize segment then .error .nameTooLong
  else
    match tree.at? (segment :: location) with
    | none => .error .notFound
    | some _ => .ok (segment :: location)

def walk (tree : FileTree) : Location → List Text → Except FileError Location
  | location, [] => .ok location
  | location, segment :: more =>
      match tree.step location segment with
      | .error cause => .error cause
      | .ok next => walk tree next more

/-- Where a path begins: at the root, or in the directory that it is seen from. -/
def origin (here : Location) (path : Text) : Location :=
  if Path.isAbsolute path then [] else here

/-- The place that a path leads to, seen from a directory. -/
def locate (tree : FileTree) (here : Location) (path : Text) : Except FileError Location := do
  checkPath path
  tree.walk (origin here path) (Path.segments path)

def find? (tree : FileTree) (here : Location) (path : Text) : Option Entry :=
  match tree.locate here path with
  | .ok location => tree.at? location
  | .error _ => none

/-- Whether a path leads to a directory. -/
def isDirectory (tree : FileTree) (here : Location) (path : Text) : Bool :=
  (tree.find? here path).map Entry.kind = some .directory

/-- Where a path would put something: the directory that all of its segments but
the last one lead to, and the last one. -/
def target (tree : FileTree) (here : Location) (path : Text) :
    Except FileError (Location × Text) := do
  checkPath path
  let segments := ((Path.segments path).reverse.dropWhile List.isEmpty).reverse
  let directory ← tree.walk (origin here path) segments.dropLast
  if !tree.isDirectoryAt directory then .error .notDirectory
  else .ok (directory, segments.getLast?.getD [])

/-- Whether a segment leads to a directory whatever stands there. -/
def namesDirectory (segment : Text) : Bool := Path.isIdle segment || segment = ['.', '.']

/-! ### Files -/

/-- The contents of the file that a path leads to. -/
def read (tree : FileTree) (here : Location) (path : Text) : Except FileError Contents :=
  match tree.locate here path with
  | .error cause => .error cause
  | .ok location =>
      match tree.at? location with
      | none => .error .notFound
      | some .directory => .error .isDirectory
      | some (.file contents) => .ok contents

/-- The place of the file that a path would write: a file that is there or a
new one in a directory that is there. -/
def writePlace (tree : FileTree) (here : Location) (path : Text) :
    Except FileError Location := do
  let (directory, name) ← tree.target here path
  if path.getLast? = some '/' || namesDirectory name then .error .isDirectory
  else if longestName < Text.byteSize name then .error .nameTooLong
  else if tree.isDirectoryAt (name :: directory) then .error .isDirectory
  else .ok (name :: directory)

/-- Writes a file, instead of what it held before. -/
def write (tree : FileTree) (here : Location) (path : Text) (contents : Contents) :
    FileTree × Except FileError Unit :=
  match tree.writePlace here path with
  | .error cause => (tree, .error cause)
  | .ok location => (tree.put location (.file contents), .ok ())

/-! ### Directories -/

/-- The place of the directory that a path would make, where nothing may stand. -/
def makePlace (tree : FileTree) (here : Location) (path : Text) :
    Except FileError Location := do
  let (directory, name) ← tree.target here path
  if namesDirectory name then .error .occupied
  else if longestName < Text.byteSize name then .error .nameTooLong
  else if (tree.at? (name :: directory)).isSome then .error .occupied
  else .ok (name :: directory)

/-- Makes one directory. -/
def makeDirectory (tree : FileTree) (here : Location) (path : Text) :
    FileTree × Except FileError Unit :=
  match tree.makePlace here path with
  | .error cause => (tree, .error cause)
  | .ok location => (tree.put location .directory, .ok ())

/-- Makes one directory unless it is there. -/
def ensureDirectory (tree : FileTree) (here : Location) (path : Text) :
    FileTree × Except FileError Unit :=
  match tree.makeDirectory here path with
  | (made, .ok ()) => (made, .ok ())
  | (same, .error cause) =>
      if same.isDirectory here path then (same, .ok ()) else (same, .error cause)

/-- Makes a directory unless it is there, and first those of the directories
above it that are missing. The empty path is the directory that it is seen
from. What was made before a cause arose stays. -/
def ensureFrom (tree : FileTree) (here : Location) (path : Text) :
    List Text → FileTree × Except FileError Unit
  | [] => if path = [] then (tree, .ok ()) else tree.ensureDirectory here path
  | nearest :: above =>
      if path = [] then (tree, .ok ())
      else
        match tree.ensureDirectory here path with
        | (same, .error .notFound) =>
            match ensureFrom same here nearest above with
            | (made, .ok ()) => made.ensureDirectory here path
            | failed => failed
        | settled => settled

/-- Makes a directory and those above it, as far as they are missing. -/
def ensureDirectories (tree : FileTree) (here : Location) (path : Text) :
    FileTree × Except FileError Unit :=
  tree.ensureFrom here path (Path.directories path)

end FileTree

end LineTemplate
