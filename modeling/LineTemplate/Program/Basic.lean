import LineTemplate.Program.Error
import LineTemplate.Session

/-!
Contract: sessions that can stop with an error, and what they do with files.

Owns:
- the requests of a program;
- reading and writing texts.

Does not own: which files a command uses.
-/

namespace LineTemplate

/-- A session that can stop with an error. -/
abbrev Program := ExceptT ProgramError Session

namespace Program

/-! ### Requests -/

/-- A session as a part of a program. -/
def ask {α : Type} (session : Session α) : Program α := ExceptT.lift session

/-- A request that can fail, with the error that its failure is. -/
def demand {α : Type} (session : Session (Except FileError α))
    (error : FileError → ProgramError) : Program α :=
  ExceptT.mk do
    match ← session with
    | .ok answer => pure (.ok answer)
    | .error cause => pure (.error (error cause))

def find (path : Text) : Program (Option EntryKind) := ask (.find path .done)

def print (text : Text) : Program Unit := ask (.print text (.done ()))

def report (text : Text) : Program Unit := ask (.report text (.done ()))

def confirm (question : Text) : Program Bool := do
  match ← ask (.confirm question .done) with
  | some answer => return answer
  | none => throw .nobodyToAsk

/-! ### Texts in files -/

/-- The text of contents, or the error that its absence is. -/
def textOf (contents : Contents) (error : FileError → ProgramError) : Program Text :=
  match contents.text with
  | .ok text => return text
  | .error cause => throw (error cause)

def readText (path : Text) (error : FileError → ProgramError) : Program Text := do
  textOf (← demand (.read path .done) error) error

/-- Stops unless there is a file at a path. -/
def checkFile (path : Text) : Program Unit := do
  match ← find path with
  | none => throw (.missingFile path)
  | some .directory => throw (.notFile path)
  | some .file => return ()

/-- The text in a file that has to be there. -/
def loadText (path : Text) : Program Text := do
  checkFile path
  readText path (.reading path)

def readInput : Program Text := do
  textOf (← ask (.readInput .done)) .readingInput

/-- The text in a file, or of the input: without a path, and for a path that is
a dash. -/
def readSource : Option Text → Program Text
  | none => readInput
  | some path => if Path.isName ['-'] path then readInput else loadText path

/-- Writes a text to a file, in directories that are made if they are missing. -/
def storeText (path text : Text) (error : FileError → ProgramError) : Program Unit := do
  match Path.parent? path with
  | none => pure ()
  | some directory => demand (.ensureDirectories directory .done) .file
  demand (.write path (Contents.ofText text) .done) error

end Program

end LineTemplate
