import Crosstab.Report.Plan
import Crosstab.Sql.Aliases
import Crosstab.Sql.Query

/-!
# Statements of reports

A report that is grouped elsewhere is handed over as one aggregate statement.  Keys and measures are
selected under the names that they have in the plan, so the answer can be pivoted as it is.

Keys are columns of the dataset, time buckets included, or columns of a remote table, whose dates
are truncated by the statement itself.
-/

namespace Crosstab

/-- Where the keys of a statement come from. -/
inductive KeySource where
  /-- They are columns of the table. -/
  | columns
  /-- Those with a time grain are truncated by the statement. -/
  | truncated
  deriving DecidableEq, Repr

/-- The form of a key. -/
def Dimension.keyForm (d : Dimension) (dialect : Dialect) (source : KeySource) (key : String) :
    Outcome (List Sql.Token) := do
  match source, ← d.grain with
  | .truncated, some g => return Sql.truncate dialect (Sql.column d.name) g
  | .truncated, none => return Sql.column d.name
  | .columns, _ => return Sql.column key

/-- A measure as it is selected. -/
def Measure.item (m : Measure) (d : Dialect) : Outcome Sql.Item := do return ⟨← m.emit d, m.name⟩

namespace Spec

/-- The keys as they are selected. -/
def keyItems (s : Spec) (d : Dialect) (source : KeySource) (keys : List String) :
    Outcome (List Sql.Item) :=
  (s.dimensions.zip keys).mapM fun (dim, key) => do
    return (⟨← dim.keyForm d source key, key⟩ : Sql.Item)

/-- The measures as they are selected; without measures, the number of rows. -/
def metricItems (s : Spec) (d : Dialect) : Outcome (List Sql.Item) :=
  match s.metrics with
  | [] => do return [⟨← Aggregate.countRows.emit d, Plan.countName⟩]
  | metrics => metrics.mapM fun m => m.item d

/-- The filter of groups, in which measures are named by their texts. -/
def havingForm (p : Condition) (d : Dialect) (metrics : List Sql.Item) :
    Outcome (List Sql.Token) := do
  let aliases : Aliases := metrics.map fun i => (i.name, Sql.render d i.form)
  (← p.substituted aliases).emit noClauses d

/-- The statement of a report over a table. -/
def query (s : Spec) (p : Plan) (d : Dialect) (table : String) (source : KeySource) :
    Outcome Sql.Query := do
  let keys ← s.keyItems d source p.groupKeys
  let metrics ← s.metricItems d
  let filter ← s.filter.mapM fun c => c.emit (Clause.emit d) d
  let having ← s.having.mapM fun c => havingForm c d metrics
  return ⟨table, keys, metrics, filter, having⟩

end Spec

end Crosstab
