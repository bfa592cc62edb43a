import LineTemplate.Text.Basic

/-!
Contract: the box that shows what the program is made of.

Owns: its lines and its drawing.

Does not own: when it is shown.
-/

namespace LineTemplate

namespace Dependencies

/-- The packages, in the order that they are shown in. -/
def packages : List Text := [
  "regex".toList,
  "clap".toList,
  "serde".toList,
  "toml".toList,
  "dialoguer".toList,
  "colored".toList]

def packageLines (package : Text) : List Text := [
  "  + Package: ".toList ++ package,
  List.replicate 13 ' ' ++ "https://crates.io/crates/".toList ++ package]

def lines : List Text := [
  "templateapp 0.1.0".toList,
  "Platform: linux x86_64".toList,
  List.replicate 20 '-',
  "Dependencies:".toList] ++ packages.flatMap packageLines

def width (lines : List Text) : Nat := (lines.map List.length).foldl max 0

/-- A line between the sides of a box. -/
def boxLine (width : Nat) (line : Text) : Text :=
  "| ".toList ++ line ++ List.replicate (width - line.length) ' ' ++ " |\n".toList

def border (width : Nat) : Text :=
  "+-".toList ++ List.replicate width '-' ++ "-+\n".toList

/-- Lines in a box that is as wide as the longest of them. -/
def drawBox (lines : List Text) : Text :=
  let width := width lines
  border width ++ lines.flatMap (boxLine width) ++ border width

end Dependencies

end LineTemplate
