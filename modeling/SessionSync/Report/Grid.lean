import SessionSync.Text.Width

/-!
# Tables of text

A table with a heading, drawn with box characters.  A cell may have several
lines; every column is as wide as its widest line.
-/

set_option autoImplicit false

namespace SessionSync.Report

/-- A table: the heading and the rows, each with one cell for every column. -/
structure Grid where
  heading : List String
  rows : List (List String)
  deriving DecidableEq, Repr

namespace Grid

/-- The characters of a horizontal rule. -/
structure Rule where
  left : Char
  line : Char
  crossing : Char
  right : Char

/-- The rule above the heading. -/
def top : Rule := ⟨'┌', '─', '┬', '┐'⟩

/-- The rule below the heading. -/
def middle : Rule := ⟨'╞', '═', '╪', '╡'⟩

/-- The rule below the last row. -/
def bottom : Rule := ⟨'└', '─', '┴', '┘'⟩

/-- A rule over columns of some widths; each has a space on both sides. -/
def Rule.draw (rule : Rule) (widths : List Nat) : String :=
  let pieces := widths.map fun width => String.ofList (List.replicate (width + 2) rule.line)
  rule.left.toString ++ rule.crossing.toString.intercalate pieces ++ rule.right.toString

/-- The lines of a cell. -/
def cellLines (cell : String) : List String := cell.splitOn "\n"

/-- The columns that a cell takes. -/
def cellWidth (cell : String) : Nat := ((cellLines cell).map Text.width).foldl max 0

/-- The widths of the columns. -/
def widths (grid : Grid) : List Nat :=
  grid.rows.foldl (fun widths row => List.zipWith max widths (row.map cellWidth))
    (grid.heading.map cellWidth)

/-- A line of a cell, filled up to the width of its column. -/
def fill (width : Nat) (line : String) : String :=
  " " ++ line ++ String.ofList (List.replicate (width - Text.width line) ' ') ++ " "

/-- The lines of a row; a cell with fewer lines than another ends with empty
ones. -/
def drawRow (widths : List Nat) (row : List String) : List String :=
  let cells := row.map cellLines
  let height := (cells.map List.length).foldl max 0
  (List.range height).map fun index =>
    let pieces := List.zipWith (fun width lines => fill width (lines[index]?.getD "")) widths cells
    "│" ++ "┆".intercalate pieces ++ "│"

/-- The lines of a table. -/
def draw (grid : Grid) : List String :=
  let widths := grid.widths
  top.draw widths :: drawRow widths grid.heading ++ middle.draw widths ::
    grid.rows.flatMap (drawRow widths) ++ [bottom.draw widths]

end Grid

end SessionSync.Report
