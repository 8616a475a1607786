import ScriptVet.Console.Markup
import ScriptVet.Console.Wrap

/-!
# Tables

A table is drawn with lines around its cells. A column is as wide as its widest cell, a row as high
as its highest one, and each cell has a blank on both sides. Titles and cells are marked-up text.
The width of a cell is taken before tabs are replaced, so that a line with tabs may have to be
broken.
-/

namespace ScriptVet.Console

structure Column where
  title : String
  alignment : Alignment := .left
  deriving Repr, DecidableEq

structure Table where
  columns : List Column
  rows : List (List String)
  deriving Repr, DecidableEq

/-- A column with its title and cells as they have been read, and their greatest width. -/
structure SetColumn where
  alignment : Alignment
  width : Nat
  title : Marked
  cells : List Marked
  deriving Repr, DecidableEq

/-- The greatest number. -/
def greatest (ns : List Nat) : Nat :=
  ns.foldl max 0

namespace Marked

/-- The cells that the widest line fills. -/
def width (marked : Marked) : Nat :=
  greatest ((Text.splitLines marked.text).map cellCount)

/-- The lines in so many cells. -/
def linesIn (alignment : Alignment) (width : Nat) (marked : Marked) : List (List Char) :=
  marked.lines.flatMap (alignment.setLine width)

/-- Applies the styles where the lines have only so many cells. -/
def checkStylesIn (width : Nat) (marked : Marked) : Result Unit :=
  let isBroken := marked.lines.any fun line => 1 < (breakLine width line).length
  marked.checkStyles (marked.isDivided || isBroken)

end Marked

namespace SetColumn

/-- Reads the title and the cells of a column. -/
def ofTexts (column : Column) (texts : List String) : Result SetColumn := do
  let title ← Markup.read column.title
  let cells ← texts.mapM Markup.read
  return ⟨column.alignment, greatest ((title :: cells).map Marked.width), title, cells⟩

/-- The lines of a cell of the column. -/
def cellLines (column : SetColumn) (cell : Marked) : List (List Char) :=
  cell.linesIn column.alignment column.width

/-- Blanks in place of a line that a cell does not have. -/
def emptyLine (column : SetColumn) : List Char :=
  blanks column.width

/-- Applies the styles of a column. -/
def checkStyles (column : SetColumn) : Result Unit :=
  (column.title :: column.cells).forM (Marked.checkStylesIn column.width)

end SetColumn

namespace Table

/-- The columns of a table, each read from top to bottom. -/
def setColumns (table : Table) : Result (List SetColumn) :=
  (table.columns.zipIdx).mapM fun (column, i) =>
    SetColumn.ofTexts column (table.rows.map fun row => row.getD i "")

/-- A line across the table between two characters, with one where columns meet. -/
def rule (first fill join last : Char) (columns : List SetColumn) : List Char :=
  let parts := columns.map fun column => List.replicate (column.width + 2) fill
  first :: List.intercalate [join] parts ++ [last]

/-- One line of a row, from the lines of its cells. -/
def rowLine (bar : Char) (cells : List (SetColumn × List (List Char))) (n : Nat) : List Char :=
  let shown := cells.map fun (column, lines) =>
    ' ' :: lines.getD n column.emptyLine ++ [' ']
  bar :: List.intercalate [bar] shown ++ [bar]

/-- The lines of a row. -/
def rowLines (bar : Char) (row : List (SetColumn × Marked)) : List (List Char) :=
  let cells := row.map fun (column, cell) => (column, column.cellLines cell)
  (List.range (greatest (cells.map (·.2.length)))).map (rowLine bar cells)

/-- The titles of columns. -/
def titles (columns : List SetColumn) : List (SetColumn × Marked) :=
  columns.map fun column => (column, column.title)

/-- The cells of columns at a position from the top. -/
def row (columns : List SetColumn) (n : Nat) : List (SetColumn × Marked) :=
  columns.filterMap fun column => column.cells[n]?.map (column, ·)

/-- The lines of the table. -/
def lines (table : Table) (columns : List SetColumn) : List (List Char) :=
  [rule '┏' '━' '┳' '┓' columns] ++ rowLines '┃' (titles columns) ++
    [rule '┡' '━' '╇' '┩' columns] ++
    (List.range table.rows.length).flatMap (fun n => rowLines '│' (row columns n)) ++
    [rule '└' '─' '┴' '┘' columns]

/-- The table as it is printed. -/
def render (table : Table) : Result String := do
  let columns ← table.setColumns
  columns.forM SetColumn.checkStyles
  written (String.ofList ((table.lines columns).flatMap (· ++ ['\n'])))

end Table

end ScriptVet.Console
