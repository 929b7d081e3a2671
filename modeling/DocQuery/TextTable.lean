import DocQuery.Text.Width

/-!
Tables drawn with lines: a frame, a double line under the header, and no lines between the rows.
A column is as wide as its widest cell, with a blank on either side. A cell of several lines makes
its row higher.
-/

namespace DocQuery

structure TextTable where
  header : List String
  rows : List (List String)

namespace TextTable

/-- The lines of a cell. -/
def cellLines (cell : String) : List (List Char) := (cell.splitOn "\n").map String.toList

def cellWidth (cell : String) : Nat :=
  (cellLines cell).foldl (fun widest line => max widest (Text.width line)) 0

/-- The width of each column; an empty column is one blank wide. -/
def columnWidths (table : TextTable) : List Nat :=
  table.rows.foldl (fun widths row => List.zipWith max widths (row.map cellWidth))
    (table.header.map fun cell => max 1 (cellWidth cell))

/-- The characters that a horizontal line is drawn with. -/
structure Rule where
  left : Char
  stroke : Char
  crossing : Char
  right : Char

def topRule : Rule := ⟨'┌', '─', '┬', '┐'⟩

def headerRule : Rule := ⟨'╞', '═', '╪', '╡'⟩

def bottomRule : Rule := ⟨'└', '─', '┴', '┘'⟩

def drawRule (rule : Rule) (widths : List Nat) : List Char :=
  let strokes := widths.map fun width => List.replicate (width + 2) rule.stroke
  rule.left :: [rule.crossing].intercalate strokes ++ [rule.right]

/-- A line of a cell, filled up to the width of its column. -/
def pad (width : Nat) (line : List Char) : List Char :=
  ' ' :: line ++ List.replicate (width - Text.width line + 1) ' '

/-- A line of a row, of which each cell gives the line at a place. -/
def drawRowLine (widths : List Nat) (cells : List (List (List Char))) (index : Nat) : List Char :=
  let padded := List.zipWith (fun width lines => pad width (lines.getD index [])) widths cells
  '│' :: ['┆'].intercalate padded ++ ['│']

def drawRow (widths : List Nat) (row : List String) : List (List Char) :=
  let cells := row.map cellLines
  let height := cells.foldl (fun height lines => max height lines.length) 0
  (List.range height).map (drawRowLine widths cells)

/-- The lines of a table. -/
def lines (table : TextTable) : List String :=
  let widths := table.columnWidths
  ([drawRule topRule widths] ++ drawRow widths table.header ++ [drawRule headerRule widths]
    ++ table.rows.flatMap (drawRow widths) ++ [drawRule bottomRule widths]).map String.ofList

end TextTable
end DocQuery
