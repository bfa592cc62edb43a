import LineTemplate.Files.Tree

/-!
Contract: what a program asks of its surroundings, one request after another.

Owns:
- sessions, as trees of requests that branch on the answers;
- the machine that answers them, and `Session.run`.

Does not own: what any program asks for.
-/

namespace LineTemplate

/-- A program as its requests: each names what it needs and goes on with the
answer. -/
inductive Session (α : Type) where
  | done (result : α)
  | find (path : Text) (next : Option EntryKind → Session α)
  | read (path : Text) (next : Except FileError Contents → Session α)
  /-- Write a file, instead of what it held before. -/
  | write (path : Text) (contents : Contents) (next : Except FileError Unit → Session α)
  /-- Make a directory and those above it, as far as they are missing. -/
  | ensureDirectories (path : Text) (next : Except FileError Unit → Session α)
  /-- Read everything that is left of the input. -/
  | readInput (next : Contents → Session α)
  /-- Ask for consent; no answer means that there is nobody to ask. -/
  | confirm (question : Text) (next : Option Bool → Session α)
  | print (text : Text) (next : Session α)
  | report (text : Text) (next : Session α)

namespace Session

def bind {α β : Type} : Session α → (α → Session β) → Session β
  | .done result, after => after result
  | .find path next, after => .find path fun answer => (next answer).bind after
  | .read path next, after => .read path fun answer => (next answer).bind after
  | .write path contents next, after =>
      .write path contents fun answer => (next answer).bind after
  | .ensureDirectories path next, after =>
      .ensureDirectories path fun answer => (next answer).bind after
  | .readInput next, after => .readInput fun answer => (next answer).bind after
  | .confirm question next, after => .confirm question fun answer => (next answer).bind after
  | .print text next, after => .print text (next.bind after)
  | .report text next, after => .report text (next.bind after)

instance : Monad Session where
  pure := .done
  bind := .bind

end Session

/-- Who is at the keyboard. -/
inductive Keyboard where
  /-- Nobody: the program does not run at a terminal. -/
  | absent
  | pressed (keys : List Char)
deriving DecidableEq, Repr

namespace Keyboard

/-- What a key answers to a question: a letter of either case consents or
refuses, the return key refuses, and other keys answer nothing. -/
def answer? (key : Char) : Option Bool :=
  if key = 'y' || key = 'Y' then some true
  else if key = 'n' || key = 'N' || key = '\r' || key = '\n' then some false
  else none

/-- The answer of the first key that answers; without one nothing is consented
to. -/
def firstAnswer : List Char → Bool × List Char
  | [] => (false, [])
  | key :: more =>
      match answer? key with
      | some answer => (answer, more)
      | none => firstAnswer more

end Keyboard

/-- Everything that a session can reach. -/
structure Machine where
  files : FileTree
  /-- The directory that paths are seen from. -/
  here : Location
  /-- What is left of the input. -/
  input : Contents
  keyboard : Keyboard
  output : Text
  messages : Text

namespace Machine

def confirm (machine : Machine) : Option Bool × Machine :=
  match machine.keyboard with
  | .absent => (none, machine)
  | .pressed keys =>
      let (answer, left) := Keyboard.firstAnswer keys
      (some answer, { machine with keyboard := .pressed left })

def withFiles (machine : Machine) (files : FileTree) : Machine := { machine with files := files }

end Machine

namespace Session

/-- The result of a session on a machine, and the machine after it. -/
def run {α : Type} : Session α → Machine → α × Machine
  | .done result, machine => (result, machine)
  | .find path next, machine =>
      run (next ((machine.files.find? machine.here path).map Entry.kind)) machine
  | .read path next, machine => run (next (machine.files.read machine.here path)) machine
  | .write path contents next, machine =>
      run (next (machine.files.write machine.here path contents).2)
        (machine.withFiles (machine.files.write machine.here path contents).1)
  | .ensureDirectories path next, machine =>
      run (next (machine.files.ensureDirectories machine.here path).2)
        (machine.withFiles (machine.files.ensureDirectories machine.here path).1)
  | .readInput next, machine =>
      run (next machine.input) { machine with input := ByteArray.empty }
  | .confirm _ next, machine => run (next machine.confirm.1) machine.confirm.2
  | .print text next, machine => run next { machine with output := machine.output ++ text }
  | .report text next, machine => run next { machine with messages := machine.messages ++ text }

/-- The second session begins on the machine that the first one left. -/
theorem run_bind {α β : Type} (first : Session α) (after : α → Session β) (machine : Machine) :
    (first >>= after).run machine =
      (after (first.run machine).1).run (first.run machine).2 := by
  show (first.bind after).run machine = _
  induction first generalizing machine <;> simp_all [Session.bind, run]

end Session

end LineTemplate
