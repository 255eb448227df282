import Crosstab.Frame.Reduction
import Crosstab.Report.Basic
import Crosstab.Report.Plan
import Crosstab.Report.Sorter

/-!
# Pivoting

A table with one row per group and one column per key and measure becomes a report: the values of
the slicer keys divide it into tables, the values of the row keys label the rows of a table, and
every combination of values of the column keys gives a column for each measure.

Tables and rows are ordered by their keys, so the order in which groups arrive does not matter.
Then the rows are sorted as the specification says, cut, and followed by the row of totals, which
is about the rows before sorting and cutting.

The order of cells is no total order of cells of several kinds: a text that reads as a date has a
place among dates and another one among texts.  Where a key or a column that is sorted by mixes such
cells, the result is that of the sort that is used, which may also stop (`Sorter`).  So pivoting is
told for any sort (`Frame.pivotWith`), and `Frame.pivot` is pivoting with the sort by merging; where
the cells are ordered, all sorts give this report.
-/

namespace Crosstab

variable {ε : Type}

/-! ## Columns -/

/-- What stands between the parts of the name of a column. -/
def columnSeparator : String := " / "

/-- The name of a column: the measure and the values of the column keys, without empty parts. -/
def flatName (metric : String) (key : List Cell) : String :=
  columnSeparator.intercalate ((metric :: key.map Cell.display).filter fun part => part != "")

/-- A column of a report. -/
structure OutputColumn where
  /-- The name. -/
  name : String
  /-- The measure that it shows. -/
  metric : Column
  /-- The values of the column keys that it is about. -/
  key : List Cell
  deriving DecidableEq, Repr

namespace OutputColumn

/-- Keeps the first of neighbours with one name. -/
def dropRepeated : List OutputColumn → List OutputColumn
  | [] => []
  | c :: rest => match dropRepeated rest with
    | [] => [c]
    | d :: more => if d.name = c.name then c :: more else c :: d :: more

/-- What is kept of the columns stays in order. -/
theorem dropRepeated_sublist (cs : List OutputColumn) : (dropRepeated cs).Sublist cs := by
  induction cs with
  | nil => exact .slnil
  | cons c rest ih =>
    unfold dropRepeated
    split
    · exact (List.nil_sublist rest).cons_cons c
    · rename_i d more h
      rw [h] at ih
      split
      · exact ((List.sublist_cons_self d more).trans ih).cons_cons c
      · exact ih.cons_cons c

/-- Sorts columns by name. -/
def sortByName (cs : List OutputColumn) : List OutputColumn :=
  cs.mergeSort fun a b => Cell.textOrder a.name b.name != .gt

/-- The columns of a report.  Without column keys they are the measures.  Otherwise each measure
is shown for each combination of their values, in the order of the names of the columns. -/
def all (f : Frame) (metrics : List Column) (columnKeys : List String) :
    Outcome (List OutputColumn) :=
  match columnKeys with
  | [] => .ok (metrics.map fun m => ⟨m.name, m, []⟩)
  | _ => do
    let groups ← f.groups columnKeys
    return dropRepeated <| sortByName <| metrics.flatMap fun m =>
      groups.map fun (key, _) => ⟨flatName m.name key, m, key⟩

/-- The cell of a column for some rows: that of the first row with the key of the column; a null is
a missing cell. -/
def cellOf? (keyOf : Nat → List Cell) (rows : List Nat) (c : OutputColumn) : Option Cell := do
  let row ← rows.find? fun row => keyOf row == c.key
  let cell := c.metric.values.getD row .null
  if cell.isNull then none else some cell

end OutputColumn

/-! ## Totals -/

/-- The total of a column of numbers, which is a whole number as long as every partial sum is one;
a column with a cell that is no number has none. -/
def totalOf? (cells : List Cell) : Option Cell := do
  let xs ← cells.mapM Cell.number?
  match cells.foldl Reduction.addWhole (some 0) with
  | some n => some (.int n)
  | none => some (.float (Reduction.total xs))

namespace Table

/-- The row of totals. -/
def totals (t : Table) : Row :=
  ⟨.total, (List.range t.columns.length).map fun i =>
    totalOf? (t.rows.filterMap fun r => r.cellAt? i)⟩

/-! ## Sorting -/

/-- The part of the name of a column in front of the first separator. -/
def firstPart (name : String) : String :=
  match Text.splitAt? columnSeparator.toList name.toList with
  | some (before, _) => String.ofList before
  | none => name

/-- The column that a sort key means: the one of its name, or the first whose name starts with it;
keys that mean no column are ignored. -/
def sortColumn? (t : Table) (k : SortKey) : Option Nat :=
  (t.columnIndex? k.name).or (t.columns.findIdx? fun c => firstPart c == k.name)

/-- The order of two cells in a column; missing ones come last in either direction. -/
def cellOrder (ascending : Bool) : Option Cell → Option Cell → Ordering
  | none, none => .eq
  | none, some _ => .gt
  | some _, none => .lt
  | some a, some b => if ascending then a.order b else b.order a

/-- The order of two rows by some columns, each with its direction. -/
def rowOrder : List (Nat × Bool) → Row → Row → Ordering
  | [], _, _ => .eq
  | (i, ascending) :: rest, a, b =>
    (cellOrder ascending (a.cellAt? i) (b.cellAt? i)).then (rowOrder rest a b)

/-- The columns that sort keys mean, each with its direction. -/
def targets (t : Table) (keys : List SortKey) : List (Nat × Bool) :=
  keys.filterMap fun k => (t.sortColumn? k).map fun i => (i, k.ascending)

/-- The rows as sort keys order them; rows that do not differ keep their order.  If a column that is
sorted by holds cells that are not totally ordered, this is only one of the results that a sort may
have, beside stopping (`Table.finishWith`). -/
def sortRows (t : Table) (keys : List SortKey) : List Row := stably (rowOrder (t.targets keys)) t.rows

/-- The first rows, if their number is limited. -/
def firstRows (limit : Option Nat) (rows : List Row) : List Row :=
  match limit with
  | some n => rows.take n
  | none => rows

/-- The table with its rows as they are sorted, cut as a specification says, and followed by the
totals of all rows. -/
def cut (t : Table) (s : Spec) (sorted : List Row) : Table :=
  { t with rows :=
      firstRows s.limit (firstRows s.topN sorted) ++ if s.totals then [t.totals] else [] }

/-- Sorts and cuts the rows of a table and adds the totals, as a specification says. -/
def finishWith (σ : Sorter ε) (t : Table) (s : Spec) : Except ε Table := do
  let sorted ← σ.sort (rowOrder (t.targets s.sortBy)) t.rows
  return t.cut s sorted

/-- The finished table, its rows sorted by merging. -/
def finish (t : Table) (s : Spec) : Table := t.cut s (t.sortRows s.sortBy)

end Table

/-! ## Reports -/

/-- The order of keys: that of their first cells that differ. -/
def keyOrder (a b : List Cell) : Ordering := List.compareLex Cell.order a b

/-- The order of groups: that of their keys.  If a key column holds cells that are not totally
ordered, neither are the groups, and how they come out is up to the sort. -/
def groupOrder (a b : Frame.Group) : Ordering := keyOrder a.1 b.1

namespace Frame

/-- The row of a group of the rows of a slice. -/
def pivotRow (outputs : List OutputColumn) (keyOf : Nat → List Cell) (sliceRows : List Nat)
    (g : Group) : Row :=
  let rows := g.2.map fun i => sliceRows.getD i 0
  ⟨.values g.1, outputs.map (OutputColumn.cellOf? keyOf rows)⟩

/-- The table of a slice, before it is sorted and cut.  An error on the left is that of the sort. -/
def pivotTable (σ : Sorter ε) (f : Frame) (p : Plan) (outputs : List OutputColumn)
    (keyOf : Nat → List Cell) (sliceRows : List Nat) : Except (ε ⊕ ReportError) Table := do
  let groups ← ((f.take sliceRows).groups p.rowKeys).mapError .inr
  let groups ← (σ.sort groupOrder groups).mapError .inl
  return ⟨p.rowKeys, outputs.map (·.name), groups.map (pivotRow outputs keyOf sliceRows)⟩

/-- The report of a table with a row for each group, with a sort of one's own.  An error on the left
is that of the sort. -/
def pivotWith (σ : Sorter ε) (f : Frame) (p : Plan) (s : Spec) : Except (ε ⊕ ReportError) Report := do
  let metrics ← (p.metricNames.mapM f.require).mapError .inr
  let outputs ← (OutputColumn.all f metrics p.columnKeys).mapError .inr
  let keyColumns ← (p.columnKeys.mapM f.require).mapError .inr
  let groups ← (f.groups p.slicerKeys).mapError .inr
  let groups ← (σ.sort groupOrder groups).mapError .inl
  let slices ← groups.mapM fun (key, rows) => do
    let table ← f.pivotTable σ p outputs (keyAt keyColumns) rows
    let table ← (table.finishWith σ s).mapError .inl
    return (⟨key, table⟩ : Slice)
  return ⟨p.slicerKeys, slices⟩

/-- What went wrong with a sort that never stops. -/
def notStopped : Empty ⊕ ReportError → ReportError
  | .inr e => e

/-- The report of a table with a row for each group, sorted by merging. -/
def pivot (f : Frame) (p : Plan) (s : Spec) : Outcome Report :=
  (f.pivotWith .merging p s).mapError notStopped

end Frame

end Crosstab
