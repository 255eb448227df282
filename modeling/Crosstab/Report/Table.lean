import Crosstab.Cell.Written
import Crosstab.Text.CharClass

/-!
# Tables of reports

A `Table` has rows with labels and a cell for each column; a cell is missing where its group has no
rows.  `render` lays a table out as a grid of text.
-/

namespace Crosstab

/-- The label of a row. -/
inductive RowKey where
  /-- The values of the dimensions of rows. -/
  | values (cells : List Cell)
  /-- The row of totals. -/
  | total
  deriving DecidableEq, Repr

/-- A row of a table. -/
structure Row where
  /-- The label. -/
  key : RowKey
  /-- The cells, one for each column. -/
  cells : List (Option Cell)
  deriving DecidableEq, Repr

/-- A table of a report. -/
structure Table where
  /-- The names of the columns that label the rows. -/
  indexNames : List String
  /-- The names of the other columns. -/
  columns : List String
  /-- The rows. -/
  rows : List Row
  deriving DecidableEq, Repr

/-- The cell of a row in the column at a position. -/
def Row.cellAt? (r : Row) (i : Nat) : Option Cell := r.cells[i]?.join

namespace Table

/-! ## Looking up -/

/-- The position of the column of a name. -/
def columnIndex? (t : Table) (name : String) : Option Nat := t.columns.findIdx? (· == name)

/-- The row with a label. -/
def row? (t : Table) (key : RowKey) : Option Row := t.rows.find? (·.key == key)

/-- The cell at a label and a column, if all three are there. -/
def cell? (t : Table) (key : RowKey) (column : String) : Option Cell := do
  (← t.row? key).cellAt? (← t.columnIndex? column)

/-- The rows other than the row of totals. -/
def dataRows (t : Table) : List Row := t.rows.filter fun r => r.key != .total

/-! ## Layout as text -/

/-- How many columns the labels of rows take. -/
def indexWidth (t : Table) : Nat := max t.indexNames.length 1

/-- A list of texts, filled up with empty ones. -/
def fillUp (width : Nat) (texts : List String) : List String := (texts.rightpad width "").take width

/-- The texts of a label. -/
def keyTexts : RowKey → List String
  | .values cells => cells.map Cell.display
  | .total => ["Total"]

/-- The text of a cell; a missing one is empty. -/
def cellText (c : Option Cell) : String := (c.map Cell.display).getD ""

/-- The texts of all lines, the first of which holds the names of the columns. -/
def grid (t : Table) : List (List String) :=
  (fillUp t.indexWidth t.indexNames ++ t.columns) ::
    t.rows.map fun r => fillUp t.indexWidth (keyTexts r.key) ++ r.cells.map cellText

/-- The widths of the columns of a grid: those of their longest texts. -/
def widths (lines : List (List String)) : List Nat :=
  lines.foldl (fun ws line => ws.zipWith max (line.map String.length))
    ((lines.headD []).map String.length)

/-- A text filled up with blanks. -/
def padded (text : String) (width : Nat) : String :=
  String.ofList (text.toList.rightpad width ' ')

/-- A line, its texts filled up and separated by two blanks, without white space at its end. -/
def lineText (ws : List Nat) (line : List String) : String :=
  Text.trimEnd ("  ".intercalate (line.zipWith padded ws)) ++ "\n"

/-- The table as a grid of text. -/
def render (t : Table) : String :=
  let lines := t.grid
  String.join (lines.map (lineText (widths lines)))

/-! ## Structured form -/

/-- The structured form of a label. -/
def keyToJson : RowKey → Json
  | .values cells => .object [("data", .array (cells.map Cell.toJson))]
  | .total => .string "total"

/-- The structured form of a row. -/
def rowToJson (r : Row) : Json :=
  .object [("key", keyToJson r.key), ("cells", .array (r.cells.map (Json.ofOption Cell.toJson)))]

/-- The structured form of a table. -/
def toJson (t : Table) : Json :=
  .object [("index_names", .strings t.indexNames), ("columns", .strings t.columns),
    ("rows", .array (t.rows.map rowToJson))]

end Table

end Crosstab
