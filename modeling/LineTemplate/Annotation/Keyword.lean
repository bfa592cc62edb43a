import LineTemplate.Text.Basic

/-!
Contract: the keywords that annotations may call.

Owns: their names, the regular expressions that they stand for, and their order.

Does not own: how a call is found or what its arguments mean.
-/

namespace LineTemplate

/-- What a keyword stands for in a line. -/
inductive KeywordRole where
  /-- Some text that its pattern matches. -/
  | placeholder
  /-- The beginning of the line. -/
  | lineStart
  /-- The end of the line. -/
  | lineEnd
deriving DecidableEq, Repr

/-- A name that annotations may call. -/
structure Keyword where
  name : Text
  pattern : Text
  role : KeywordRole
deriving DecidableEq, Repr

namespace Keyword

/-- Whether the keyword stands for a place in the line and not for text. -/
def isAnchor (keyword : Keyword) : Bool := keyword.role != .placeholder

/-- A keyword that stands for text. -/
def ofPattern (name pattern : String) : Keyword :=
  ⟨name.toList, pattern.toList, .placeholder⟩

/-- All keywords, by family. -/
def all : List Keyword := [
  ofPattern "letter" "[a-zA-Z]",
  ofPattern "letters" "[a-zA-Z]+",
  ofPattern "digit" "\\d",
  ofPattern "digits" "\\d+",
  ofPattern "number" "[+-]?\\d*\\.?\\d+",
  ofPattern "mixed_number" "[+(\\[$-]?\\d[\\d,]*(?:\\.\\d+)?[\\])%a-zA-Z]*",
  ofPattern "word" "[a-zA-Z][a-zA-Z0-9]*",
  ofPattern "words" "[a-zA-Z][a-zA-Z0-9]*(?: [a-zA-Z][a-zA-Z0-9]*)*",
  ofPattern "mixed_word" "\\S*[a-zA-Z0-9]\\S*",
  ofPattern "mixed_words" "\\S*[a-zA-Z0-9]\\S*(?: +\\S*[a-zA-Z0-9]\\S*)*",
  ofPattern "phrase" "[a-zA-Z][a-zA-Z0-9]*(?: [a-zA-Z][a-zA-Z0-9]*)+",
  ofPattern "punct" "[!-/:-@\\[-\x60\x7b-~]",
  ofPattern "puncts" "[!-/:-@\\[-\x60\x7b-~]+",
  ofPattern "data" "\\S*",
  ofPattern "something" ".+",
  ofPattern "everything" ".*",
  ofPattern "ipv4_address" "(?:\\d\x7b1,3\x7d\\.)\x7b3\x7d\\d\x7b1,3\x7d",
  ofPattern "mac_address"
    ("(?:[0-9a-fA-F]\x7b2\x7d(?:[:-][0-9a-fA-F]\x7b2\x7d)\x7b5\x7d|" ++
      "[0-9a-fA-F]\x7b4\x7d(?:\\.[0-9a-fA-F]\x7b4\x7d)\x7b2\x7d)"),
  ofPattern "ws" "\\s+",
  ⟨"start".toList, ['^'], .lineStart⟩,
  ⟨"end".toList, ['$'], .lineEnd⟩]

def find? (name : Text) : Option Keyword :=
  all.find? fun keyword => keyword.name = name

end Keyword

end LineTemplate
