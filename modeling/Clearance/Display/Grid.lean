import Clearance.Display.Line
import Clearance.Display.Markup

/-! Tables of marked-up cells in ruled boxes, with a heavy head over a light body. -/
namespace Clearance.Display

structure Column where
  header : Text
  centered : Bool
deriving Repr

/-- The characters of a ruled line: its two ends, what it is drawn with, and where it meets the
rules between columns. -/
structure Rule where
  left : String
  fill : String
  cross : String
  right : String
deriving DecidableEq, Repr

namespace Grid

def topRule : Rule := ⟨"┏", "━", "┳", "┓"⟩

def headEdge : Rule := ⟨"┃", " ", "┃", "┃"⟩

def headRule : Rule := ⟨"┡", "━", "╇", "┩"⟩

def bodyEdge : Rule := ⟨"│", " ", "│", "│"⟩

def bottomRule : Rule := ⟨"└", "─", "┴", "┘"⟩

/-- A line of the table: pieces between the edges, one for each column. -/
def ruled (rule : Rule) (pieces : List Text) : Text :=
  rule.left.toList ++ Text.join rule.cross.toList pieces ++ rule.right.toList

/-- Every column is one cell wider than its text on either side. -/
def across (rule : Rule) (widths : List Nat) : Text :=
  ruled rule (widths.map fun w => (List.replicate (w + 2) rule.fill.toList).flatten)

/-- A column is as wide as its widest cell. -/
def widths (head : List Text) (rows : List (List Text)) : List Nat :=
  rows.foldl (List.zipWith fun w cell => max w (Line.natural cell)) (head.map Line.natural)

/-- The lines of a cell, each filled up to the width of its column. -/
def cellLines (column : Column) (width : Nat) (cell : Text) : List Text :=
  (Line.column width cell).map fun line =>
    if column.centered then
      Line.center width (Line.truncate width (Text.dropEndWhile Line.isBlank line))
    else Line.padRight width line

/-- A row is as high as its highest cell; lines below the end of a cell are blank. -/
def rowLines (edge : Rule) (columns : List Column) (widths : List Nat) (row : List Text) :
    List Text :=
  let cells := (columns.zip (widths.zip row)).map fun (c, w, cell) => (w, cellLines c w cell)
  let height := (cells.map fun cell => cell.2.length).foldl max 0
  (List.range height).map fun i =>
    ruled edge (cells.map fun (w, lines) => ' ' :: lines.getD i (Line.spaces w) ++ [' '])

/-- A table under its title, line by line. All cells are in markup. -/
def lines (title : Text) (columns : List Column) (rows : List (List Text)) : List Text :=
  let head := columns.map fun c => Markup.render c.header
  let rows := rows.map fun row => row.map Markup.render
  let ws := widths head rows
  let top := across topRule ws
  [Line.center (width top) (Markup.render title), top] ++ rowLines headEdge columns ws head ++
    [across headRule ws] ++ rows.flatMap (rowLines bodyEdge columns ws) ++ [across bottomRule ws]

def draw (title : Text) (columns : List Column) (rows : List (List Text)) : Text :=
  (lines title columns rows).flatMap (· ++ ['\n'])

end Grid

end Clearance.Display
