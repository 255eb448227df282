import Crosstab.Fault
import Crosstab.Report.Table

/-!
# Reports

A `Report` is a list of tables, one for each combination of values of the slicers.  A report without
slicers has exactly one table, with an empty key.
-/

namespace Crosstab

/-- A table with the values of the slicers that it is about. -/
structure Slice where
  /-- The values of the slicers. -/
  key : List Cell
  /-- The table. -/
  table : Table
  deriving DecidableEq, Repr

/-- The tables of a report. -/
structure Report where
  /-- The names of the slicers. -/
  slicerNames : List String
  /-- The tables, ordered by their keys. -/
  slices : List Slice
  deriving DecidableEq, Repr

namespace Report

/-- The table of a key. -/
def table? (r : Report) (key : List Cell) : Option Table :=
  (r.slices.find? (·.key == key)).map (·.table)

/-- The only table. -/
def single (r : Report) : Outcome Table :=
  match r.slices with
  | [slice] => .ok slice.table
  | slices => reject (.notSingle slices.length)

/-- The structured form of a report. -/
def toJson (r : Report) : Json :=
  .object [("slicer_names", .strings r.slicerNames),
    ("slices", .array (r.slices.map fun s =>
      .object [("key", .array (s.key.map Cell.toJson)), ("table", s.table.toJson)]))]

end Report

end Crosstab
