import LineTemplate.Annotation.Expansion

/-!
Contract: what is wrong with the keyword calls of a line, call by call.

Owns:
- the calls of a line with the text before and after each;
- the offence of a call, by the first rule that it breaks.

Does not own: the expansion of calls that break no rule.
-/

namespace LineTemplate

/-- A keyword call where it stands in its line. -/
structure CallSite where
  /-- All of the line before the call. -/
  before : Text
  keyword : Keyword
  arguments : Text
  /-- All of the line after the call. -/
  after : Text
deriving DecidableEq, Repr

namespace CallSite

/-- The calls among pieces, with the text that stands before the first piece. -/
def ofPieces (before : Text) : List LinePiece → List CallSite
  | [] => []
  | piece :: pieces =>
      let rest := ofPieces (before ++ piece.text) pieces
      match piece with
      | .char _ => rest
      | .call written =>
          match Keyword.find? written.name with
          | none => rest
          | some keyword =>
              ⟨before, keyword, written.arguments, pieces.flatMap LinePiece.text⟩ :: rest

def ofText (text : Text) : List CallSite := ofPieces [] (LinePiece.ofText text)

/-- The arguments of a call: split at commas, trimmed and not empty. -/
def argumentTexts (site : CallSite) : List Text := CallArguments.split site.arguments

/-- The name that an argument binds, whether or not it is a proper one. -/
def boundName? (argument : Text) : Option Text := "var_".toList.isPrefixOf? argument

def isAlternative (argument : Text) : Bool := "or_".toList.isPrefixOf argument

def argumentOffense? (keyword : Keyword) (argument : Text) : Option AnnotationError :=
  match boundName? argument with
  | some name =>
      if Text.isVariableName name then none
      else some (.invalidVariableName keyword.name name)
  | none =>
      if isAlternative argument || (ValueOption.ofText? argument).isSome then none
      else some (.unknownArgument keyword.name argument)

/-- The name that a call binds: the last one among its arguments. -/
def lastName? (site : CallSite) : Option Text :=
  (site.argumentTexts.filterMap boundName?).getLast?

/-- Whether an anchor stands inside the line. -/
def isInside (site : CallSite) : Bool :=
  match site.keyword.role with
  | .placeholder => false
  | .lineStart => !Text.isAllBlank site.before
  | .lineEnd => !Text.isAllBlank site.after

/-- The offence of a call after calls that bind some names. An anchor inside the
line comes first, then the first argument with an offence, an anchor that
binds a name, and a name that is bound already. -/
def offense? (bound : List Text) (site : CallSite) : Option AnnotationError :=
  if site.isInside then some (.misplacedAnchor site.keyword.name)
  else
    match site.argumentTexts.findSome? (argumentOffense? site.keyword) with
    | some error => some error
    | none =>
        match site.lastName? with
        | none => none
        | some name =>
            if site.keyword.isAnchor then some (.anchorWithVariable site.keyword.name)
            else if bound.contains name then some (.repeatedVariable name)
            else none

/-- The first offence among calls, the first of which follows calls that bind
some names. -/
def firstOffense? (bound : List Text) : List CallSite → Option AnnotationError
  | [] => none
  | site :: sites =>
      (offense? bound site).or (firstOffense? (bound ++ site.lastName?.toList) sites)

end CallSite

/-- The offence of a content: that of the first call of its expanded text that
has one. -/
def contentOffense? (content : Text) : Option AnnotationError :=
  CallSite.firstOffense? [] (CallSite.ofText (Literal.withoutAnchor content))

end LineTemplate
