import LineTemplate.Text.Basic

/-!
Contract: why a file cannot be used as asked.

Owns: the causes and their wording, with their numbers.

Does not own: when a cause arises.
-/

namespace LineTemplate

/-- Why a file or directory cannot be used as asked. -/
inductive FileError where
  /-- There is nothing at the path, or nothing that it could lead through. -/
  | notFound
  | occupied
  /-- The path leads through something that is no directory. -/
  | notDirectory
  /-- There is a directory where a file is needed. -/
  | isDirectory
  | nameTooLong
  | nulInPath
  | notText
  /-- The surroundings refuse, for a reason of their own. -/
  | refused (reason : Text)
deriving DecidableEq, Repr

namespace FileError

def message : FileError → Text
  | .notFound => "No such file or directory (os error 2)".toList
  | .occupied => "File exists (os error 17)".toList
  | .notDirectory => "Not a directory (os error 20)".toList
  | .isDirectory => "Is a directory (os error 21)".toList
  | .nameTooLong => "File name too long (os error 36)".toList
  | .nulInPath => "file name contained an unexpected NUL byte".toList
  | .notText => "stream did not contain valid UTF-8".toList
  | .refused reason => reason

end FileError

end LineTemplate
