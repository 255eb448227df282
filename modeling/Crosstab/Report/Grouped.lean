import Crosstab.Report.Pivot

/-!
# Grouping a dataset

The grouped table of a report has a row for each combination of keys and a column for each key and
measure.  It is computed from the rows that pass the filter; groups that do not pass the filter of
groups are dropped, and pivoting the rest gives the report.
-/

namespace Crosstab

/-- The rows of a table in which a condition holds, if there is one. -/
def Frame.restrict (f : Frame) : Option Condition → Outcome Frame
  | none => .ok f
  | some p => do return f.filter (← p.mask f)

/-- The columns of the keys of some groups. -/
def keyColumns (keys : List String) (groups : List Frame.Group) : List Column :=
  keys.zipIdx.map fun (name, i) => ⟨name, groups.map fun g => g.1.getD i .null⟩

/-- The column of a measure over some groups. -/
def Measure.column (m : Measure) (f : Frame) (groups : List Frame.Group) : Outcome Column := do
  return ⟨m.name, ← m.aggregate.eval f (groups.map (·.2))⟩

namespace Spec

/-- The columns of the measures over some groups; without measures, the numbers of rows. -/
def measureColumns (s : Spec) (f : Frame) (groups : List Frame.Group) : Outcome (List Column) :=
  match s.metrics with
  | [] => .ok [⟨Plan.countName, groups.map fun g => Reduction.countCell g.2.length⟩]
  | metrics => metrics.mapM fun m => m.column f groups

/-- The grouped table. -/
def grouped (s : Spec) (ds : Dataset) (p : Plan) : Outcome Frame := do
  let rows ← (← ds.frame).restrict s.filter
  let groups ← rows.groups p.groupKeys
  let measures ← s.measureColumns rows groups
  let table ← (keyColumns p.groupKeys groups ++ measures).foldlM Frame.insert
    (Frame.withLen groups.length)
  table.restrict s.having

/-- The report that is computed here. -/
def computed (s : Spec) (ds : Dataset) (p : Plan) : Outcome Report := do
  (← s.grouped ds p).pivot p s

end Spec

/-- Plans and computes a report over a dataset. -/
def Dataset.report (ds : Dataset) (s : Spec) : Dataset × Outcome Report :=
  let (ds, p) := s.plan .here ds
  (ds, p.bind (s.computed ds))

end Crosstab
