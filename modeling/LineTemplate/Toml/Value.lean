import LineTemplate.Text.Basic

/-!
Contract: the values of a TOML document and the rules by which tables grow.

Owns:
- values, and how a table came to be;
- opening a table by a header, and adding a pair under a dotted key; both fail
  where the document defines something twice.

Does not own: the written form.
-/

namespace LineTemplate.Toml

/-- How a table came to be, which decides what may still be added to it. -/
inductive TableOrigin where
  /-- Written between braces; it is complete. -/
  | inline
  /-- Opened by a header of its own. -/
  | header
  /-- Passed through by the header of a table inside it. -/
  | implied
  /-- Passed through by a dotted key. -/
  | dotted
deriving DecidableEq, Repr

/-- A value. Of numbers and times, only their kind is kept. -/
inductive Value where
  | string (text : Text)
  | integer
  | float
  | boolean (value : Bool)
  | dateTime
  | array (items : List Value)
  | table (origin : TableOrigin) (entries : List (Text × Value))
  /-- Tables opened one after the other by headers in double brackets. -/
  | tables (items : List (List (Text × Value)))
deriving Repr

/-- The pairs of a table, in the order in which their keys came up. -/
abbrev Entries := List (Text × Value)

namespace Entries

def replace (key : Text) (value : Value) (entries : Entries) : Entries :=
  entries.map fun entry => if entry.1 = key then (key, value) else entry

/-- Adds a pair, unless the key is there. -/
def insertFresh (key : Text) (value : Value) (entries : Entries) : Option Entries :=
  if (entries.lookup key).isSome then none else some (entries ++ [(key, value)])

/-- Changes the table at the end of a path. Tables on the way are made where
they are missing, with the origin `made`; of tables opened one after the other,
the last is meant. Dotted keys do not reach into tables with a header, and
nothing reaches into a table between braces. -/
def changeAt (made : TableOrigin) (change : TableOrigin → Entries → Option Entries) :
    List Text → TableOrigin → Entries → Option Entries
  | [], origin, entries => change origin entries
  | key :: path, _, entries =>
      match entries.lookup key with
      | none =>
          (changeAt made change path made []).map fun inner =>
            entries ++ [(key, .table made inner)]
      | some (.table origin inner) =>
          if origin = .inline ∨ (made = .dotted ∧ origin = .header) then none
          else
            (changeAt made change path origin inner).map fun inner =>
              replace key (.table origin inner) entries
      | some (.tables items) =>
          match items.reverse with
          | [] => none
          | last :: before =>
              (changeAt made change path .header last).map fun last =>
                replace key (.tables (before.reverse ++ [last])) entries
      | some _ => none

/-- Adds a pair under a dotted key. The tables on the way must stem from dotted
keys, at least the last of them, and the key must be new. -/
def addPair (path : List Text) (key : Text) (value : Value) (entries : Entries) :
    Option Entries :=
  changeAt .dotted
    (fun origin inner =>
      if !path.isEmpty && origin != .dotted then none else insertFresh key value inner)
    path .header entries

def openTable (key : Text) (entries : Entries) : Option Entries :=
  match entries.lookup key with
  | none => some (entries ++ [(key, .table .header [])])
  | some (.table .implied inner) => some (replace key (.table .header inner) entries)
  | some _ => none

def openNext (key : Text) (entries : Entries) : Option Entries :=
  match entries.lookup key with
  | none => some (entries ++ [(key, .tables [[]])])
  | some (.tables items) => some (replace key (.tables (items ++ [[]])) entries)
  | some _ => none

end Entries

/-- A document up to some line. -/
structure Document where
  root : Entries
  /-- The header that pairs are added under; empty before the first header. -/
  header : List Text
deriving Repr

namespace Document

def empty : Document := ⟨[], []⟩

/-- Takes a header in: the keys before its last, and its last key. -/
def openHeader (double : Bool) (path : List Text) (key : Text) (document : Document) :
    Option Document :=
  let opening := if double then Entries.openNext key else Entries.openTable key
  (Entries.changeAt .implied (fun _ => opening) path .header document.root).map fun root =>
    ⟨root, path ++ [key]⟩

def addPair (path : List Text) (key : Text) (value : Value) (document : Document) :
    Option Document :=
  (Entries.changeAt .implied (fun _ => Entries.addPair path key value) document.header .header
    document.root).map fun root => { document with root }

end Document

end LineTemplate.Toml
