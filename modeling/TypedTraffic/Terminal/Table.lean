import TypedTraffic.Terminal.Markup

/-!
# Tables

A table has a title in the middle above it, a head between heavy lines
and rows between light ones. A column is as wide as the widest line in
it, with a blank on either side, and is aligned left or right. A row is
as high as its highest cell.
-/

namespace TypedTraffic.Terminal

/-- A column. -/
structure Column where
  /-- What stands in the head. -/
  title : String
  /-- Whether the column is aligned right. -/
  alignRight : Bool

/-- **A table.** -/
structure Table where
  /-- What stands above the table. -/
  title : String
  /-- The columns. -/
  columns : List Column
  /-- The marked-up cells of each row. -/
  rows : List (List (List Char))

namespace Table

/-- The greatest of some numbers. -/
def greatest (numbers : List Nat) : Nat := numbers.foldl max 0

/-- The lines of the cells of each row. -/
def cellLines (t : Table) : List (List (List (List Char))) :=
  t.rows.map fun row => row.map fun cell => printedLines (visible cell)

/-- The width of a column, given the lines of its cells. -/
def columnWidth (column : Column) (cells : List (List (List Char))) : Nat :=
  greatest (width column.title.toList :: cells.flatten.map width)

/-- The widths of the columns. -/
def widths (t : Table) : List Nat :=
  t.columns.zipIdx.map fun (column, i) =>
    columnWidth column (t.cellLines.map fun row => row[i]?.getD [])

/-- A line of a table: the cells between the left end, the separators
and the right end. -/
def row (left separator right : Char) (cells : List (List Char)) : List Char :=
  left :: Text.join [separator] cells ++ [right]

/-- A line across a table. -/
def rule (left fill separator right : Char) (widths : List Nat) : List Char :=
  row left separator right (widths.map fun w => List.replicate (w + 2) fill)

/-- A cell with its blanks. -/
def aligned (column : Column) (room : Nat) (cs : List Char) : List Char :=
  ' ' :: (if column.alignRight then padStart room cs else padEnd room cs) ++ [' ']

/-- The lines of a row of cells. -/
def rowLines (separator : Char) (columns : List (Column × Nat)) (cells : List (List (List Char))) :
    List (List Char) :=
  (List.range (greatest (cells.map List.length))).map fun i =>
    row separator separator separator
      ((columns.zip cells).map fun ((column, room), lines) =>
        aligned column room (lines[i]?.getD []))

/-- The lines of a table. -/
def lines (t : Table) : List (List Char) :=
  let widths := t.widths
  let columns := t.columns.zip widths
  let head := t.columns.map fun column => [column.title.toList]
  let whole := (widths.map (· + 3)).foldr (· + ·) 1
  center whole t.title.toList
    :: rule '┏' '━' '┳' '┓' widths
    :: rowLines '┃' columns head
    ++ rule '┡' '━' '╇' '┩' widths
    :: t.cellLines.flatMap (rowLines '│' columns)
    ++ [rule '└' '─' '┴' '┘' widths]

/-- **What is printed of a table.** -/
def printed (t : Table) : String :=
  String.ofList (t.lines.flatMap fun line => line ++ ['\n'])

end Table

end TypedTraffic.Terminal
