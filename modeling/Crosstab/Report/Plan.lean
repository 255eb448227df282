import Crosstab.Frame.Dataset
import Crosstab.Report.Spec

/-!
# Plans

A `Plan` names the columns that a report groups by and the measures that it computes.  Planning
checks the specification and, where the groups are formed over the dataset, attaches the columns of
time buckets to it.  It changes nothing else of the dataset, and what was attached before a failure
stays attached.
-/

namespace Crosstab

/-- Where the groups of a report are formed. -/
inductive Site where
  /-- Here, over the dataset. -/
  | here
  /-- In a database to which the dataset is handed. -/
  | embedded
  /-- In a remote warehouse, which reads a table of its own. -/
  | warehouse
  deriving DecidableEq, Repr

namespace Site

/-- All sites. -/
def all : List Site := [.here, .embedded, .warehouse]

/-- The name of a site. -/
def name : Site → String
  | .here => "local"
  | .embedded => "embedded"
  | .warehouse => "warehouse"

/-- Whether time buckets are columns of the dataset. -/
def usesDataset : Site → Bool
  | .here => true
  | .embedded => true
  | .warehouse => false

end Site

/-- What a report groups by and computes. -/
structure Plan where
  /-- Where the groups are formed. -/
  site : Site
  /-- The columns whose values label rows. -/
  rowKeys : List String
  /-- The columns whose values are spread over columns. -/
  columnKeys : List String
  /-- The columns whose values divide the report into tables. -/
  slicerKeys : List String
  /-- The names of the measures. -/
  metricNames : List String
  deriving DecidableEq, Repr

namespace Plan

/-- All columns that are grouped by: those of rows, columns and slicers. -/
def groupKeys (p : Plan) : List String := p.rowKeys ++ p.columnKeys ++ p.slicerKeys

/-- The name of the measure of a report without measures: the number of rows. -/
def countName : String := "rows"

/-- The column that a dimension groups by, and the dataset with that column. -/
def resolve (site : Site) (ds : Dataset) (d : Dimension) : Outcome (String × Dataset) :=
  if site.usesDataset then do
    let (key, buckets) ← d.resolve ds.base
    match buckets with
    | none => return (key, ds)
    | some c => return (key, (← ds.attach c).2)
  else do return (← d.keyName, ds)

/-- The columns that some dimensions group by, up to the first that has none, and the dataset with
those columns. -/
def resolveAll (site : Site) (ds : Dataset) : List Dimension → Dataset × Outcome (List String)
  | [] => (ds, .ok [])
  | d :: rest => match resolve site ds d with
    | .error e => (ds, .error e)
    | .ok (key, ds) =>
      let (ds, keys) := resolveAll site ds rest
      (ds, keys.map (key :: ·))

end Plan

namespace Spec

/-- The names of the measures of a report; there is at least one. -/
def plannedMetrics (s : Spec) : List String :=
  if s.metrics.isEmpty then [Plan.countName] else s.metricNames

/-- The plan with some columns to group by, in the order of the dimensions. -/
def planOf (s : Spec) (site : Site) (keys : List String) : Plan where
  site := site
  rowKeys := keys.take s.rows.length
  columnKeys := (keys.drop s.rows.length).take s.columns.length
  slicerKeys := keys.drop (s.rows.length + s.columns.length)
  metricNames := s.plannedMetrics

/-- A plan groups by the columns that it was made of. -/
theorem groupKeys_planOf (s : Spec) (site : Site) (keys : List String) :
    (s.planOf site keys).groupKeys = keys := by
  simp only [planOf, Plan.groupKeys, ← List.drop_drop, List.append_assoc, List.take_append_drop]

/-- Plans a report over a dataset; the answer holds the dataset with the columns of buckets. -/
def plan (s : Spec) (site : Site) (ds : Dataset) : Dataset × Outcome Plan :=
  match s.validate with
  | .error e => (ds, .error e)
  | .ok () =>
    let (ds, keys) := Plan.resolveAll site ds s.dimensions
    (ds, keys.map (s.planOf site))

end Spec

end Crosstab
