import LineTemplate.CommandLine.Usage
import LineTemplate.Program
import Std.Time.DateTime

/-!
Contract: the program at a real terminal.

Owns: the answers that the surroundings give to the requests of a session.

Does not own: any decision of the program, all of which the session holds.
-/

namespace LineTemplate

namespace Terminal

/-- The cause behind a failure of the surroundings. -/
def fileErrorOf : IO.Error → FileError
  | .noFileOrDirectory .. => .notFound
  | .alreadyExists .. => .occupied
  | .inappropriateType _ code _ => if code = 20 then .notDirectory else .isDirectory
  | .invalidArgument _ 36 _ => .nameTooLong
  | other => .refused (toString other).toList

/-- An action with the cause of its failure. -/
def attempt {α : Type} (action : IO α) : IO (Except FileError α) := do
  try
    return .ok (← action)
  catch failure =>
    return .error (fileErrorOf failure)

/-- What kind of thing a path leads to. What can be opened and not read is a
directory. -/
def find (path : String) : IO (Option EntryKind) := do
  match ← attempt (IO.FS.Handle.mk path .read) with
  | .error (.refused _) => return some .file
  | .error _ => return none
  | .ok handle =>
      match ← attempt (handle.read 1) with
      | .error .isDirectory => return some .directory
      | _ => return some .file

def ensureDirectories (path : String) : IO (Except FileError Unit) := do
  if path.isEmpty then return .ok ()
  attempt (IO.FS.createDirAll path)

partial def readAll (stream : IO.FS.Stream) (start : ByteArray) : IO ByteArray := do
  let block ← stream.read 65536
  if block.isEmpty then return start
  readAll stream (start ++ block)

def confirm (question : Text) : IO (Option Bool) := do
  let input ← IO.getStdin
  unless ← input.isTty do return none
  IO.eprint (String.ofList question ++ " [y/N] ")
  let line ← input.getLine
  return some (Keyboard.firstAnswer line.toList).1

/-- A session with the answers of the surroundings. -/
def run {α : Type} : Session α → IO α
  | .done result => return result
  | .find path next => do run (next (← find (String.ofList path)))
  | .read path next => do run (next (← attempt (IO.FS.readBinFile (String.ofList path))))
  | .write path contents next => do
      run (next (← attempt (IO.FS.writeBinFile (String.ofList path) contents)))
  | .ensureDirectories path next => do run (next (← ensureDirectories (String.ofList path)))
  | .readInput next => do run (next (← readAll (← IO.getStdin) ByteArray.empty))
  | .confirm question next => do run (next (← confirm question))
  | .print text next => do
      IO.print (String.ofList text)
      run next
  | .report text next => do
      IO.eprint (String.ofList text)
      run next

def padded (digits : Nat) (number : Int) : String :=
  let written := toString number
  String.ofList (List.replicate (digits - written.length) '0') ++ written

/-- The date of the day, in universal time. -/
def today : IO Text := do
  let now ← Std.Time.Timestamp.now
  let date := Std.Time.PlainDate.ofEpochDay now.toDaysSinceUnixEpoch
  return (padded 4 date.year.toInt ++ "-" ++ padded 2 date.month.val ++ "-" ++
    padded 2 date.day.val).toList

/-- The path that a variable of the surroundings holds, if it holds one. -/
def pathIn (name : String) : IO (Option Text) := do
  return ((← IO.getEnv name).map String.toList).filter fun path => !path.isEmpty

/-- The directories of the user. Only an absolute path says where settings are kept. -/
def userDirectories : IO UserDirectories := do
  let home ← pathIn "HOME"
  match (← pathIn "XDG_CONFIG_HOME").filter Path.isAbsolute with
  | some configuration => return ⟨some configuration, home⟩
  | none => return ↑home

def surroundings : IO Surroundings := do
  return ⟨← userDirectories, ← today⟩

end Terminal

end LineTemplate

open LineTemplate in
/-- Reads the command line and runs what it asks for. -/
def main (arguments : List String) : IO UInt32 := do
  match CommandLine.read (arguments.map String.toList) with
  | .error error =>
      let message := String.ofList error.message
      if error.exitCode = 0 then IO.print message else IO.eprint message
      return error.exitCode.toUInt32
  | .ok line =>
      let code ← Terminal.run (Program.session (← Terminal.surroundings) line)
      return code.toUInt32
