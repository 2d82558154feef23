import NativeExports.Text.Width
/-!
Plain text tables.  A table has an optional title, a header of column names and rows of
cells.  Each line is indented by two spaces; cells are separated by two spaces and padded to
their column's width in terminal cells, except the last cell of a line, and trailing spaces
are removed.  When a cell limit is set, a longer cell is cut to the limit and, if the limit
leaves room, marked with "..." at the cut.
-/

namespace NativeExports.Text

/-- A table to print: title (none when empty), column names, rows, and the most cells a
cell may take (no limit when zero or negative). -/
structure Table where
  title : String
  columns : List String
  rows : List (List String)
  maxWidth : Int
  deriving Repr

/-- The terminal width library a table is laid out with: the cells a text takes, a text cut to
a number of cells with a tail after the cut, and a text filled on the right with spaces to a
number of cells. -/
structure CellWidths where
  displayWidth : String → Nat
  truncateTo : String → Nat → String → String
  fillRight : String → Nat → String

/-- The widths of `Text.Width`, the library the tool links. -/
def CellWidths.terminal : CellWidths := ⟨Text.displayWidth, Text.truncateTo, Text.fillRight⟩

section Layout

variable (lib : CellWidths)

/-- A cell cut to the table's limit: limits of three cells or fewer cut without a marker. -/
def Table.fitCell (maxWidth : Int) (value : String) : String :=
  if maxWidth ≤ 0 then value
  else if lib.displayWidth value ≤ maxWidth.toNat then value
  else if maxWidth ≤ 3 then lib.truncateTo value maxWidth.toNat ""
  else lib.truncateTo value maxWidth.toNat "..."

/-- The cells of a row as printed: exactly one per column, missing ones empty, each cut to
the limit. -/
def Table.rowCells (t : Table) (row : List String) : List String :=
  (List.range t.columns.length).map fun i => Table.fitCell lib t.maxWidth (row.getD i "")

/-- The width of each column: the widest of its name and its printed cells. -/
def Table.columnWidths (t : Table) : List Nat :=
  (List.range t.columns.length).map fun i =>
    (t.rows.map fun row => lib.displayWidth ((t.rowCells lib row).getD i "")).foldl max
      (lib.displayWidth (t.columns.getD i ""))

/-- Removes the spaces at the end of a text. -/
def trimRightSpaces (s : String) : String :=
  String.ofList (s.toList.reverse.dropWhile (· = ' ')).reverse

/-- Cells padded to their widths (all but the last), joined by two spaces. -/
def padCells : List String → List Nat → List String
  | [], _ => []
  | [c], _ => [c]
  | c :: rest, w :: ws => lib.fillRight c w :: padCells rest ws
  | c :: rest, [] => lib.fillRight c 0 :: padCells rest []

/-- One line of the table: two spaces, then the padded cells, without trailing spaces. -/
def tableLine (cells : List String) (widths : List Nat) : String :=
  "  " ++ trimRightSpaces (String.intercalate "  " (padCells lib cells widths))

/-- The table as text: the title and a blank line when there is a title, then the header and
one line per row, each line ending in a newline. -/
def Table.renderWith (t : Table) : String :=
  let widths := t.columnWidths lib
  let head := if t.title = "" then "" else t.title ++ "\n\n"
  let body := t.rows.map fun row => tableLine lib (t.rowCells lib row) widths ++ "\n"
  head ++ tableLine lib t.columns widths ++ "\n" ++ String.join body

end Layout

/-- The table as text, laid out with the linked widths. -/
def Table.render (t : Table) : String := t.renderWith CellWidths.terminal

end NativeExports.Text
