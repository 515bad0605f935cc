import JavaConstants.Text.Lines
import JavaConstants.Unicode.Width

/-!
# Tables

Rows of cells inside a border, with a rule below the first row. A column is as wide as its widest
line on a fixed-width display; a cell with several lines makes its row as high.
-/

namespace JavaConstants

/-- The lines of a cell: the parts between its line feeds. -/
def cellLines (cell : String) : List String := (cell.toList.splitOn '\n').map String.ofList

/-- A text with blanks behind it up to a display width. -/
def padTo (width : Nat) (s : String) : String :=
  s ++ String.ofList (List.replicate (width - Unicode.width s) ' ')

/-- The width of the widest line of a cell. -/
def cellWidth (cell : String) : Nat := ((cellLines cell).map Unicode.width).foldl max 0

/-- The width of each column. -/
def columnWidths : List (List String) → List Nat
  | [] => []
  | [row] => row.map cellWidth
  | row :: rows => List.zipWith max (row.map cellWidth) (columnWidths rows)

/-- The lines of a row inside the border. -/
def rowLines (widths : List Nat) (row : List String) : List String :=
  let cells := row.map cellLines
  let height := (cells.map (·.length)).foldl max 0
  (List.range height).map fun i ↦
    "│" ++ " ".intercalate
      (List.zipWith (fun w lines ↦ " " ++ padTo w (lines.getD i "") ++ " ") widths cells) ++ "│"

/-- A horizontal line of the border. -/
def ruleLine (left line right : Char) (widths : List Nat) : String :=
  String.ofList
    (left :: List.replicate (widths.foldl (· + · + 3) 0 - 1) line ++ [right])

/-- The text of a table with a row of headings. -/
def renderTable (heading : List String) (rows : List (List String)) : String :=
  let widths := columnWidths (heading :: rows)
  "\n".intercalate
    ([ruleLine '┌' '─' '┐' widths] ++ rowLines widths heading ++ [ruleLine '╞' '═' '╡' widths] ++
      rows.flatMap (rowLines widths) ++ [ruleLine '└' '─' '┘' widths])

end JavaConstants
