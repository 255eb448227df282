import Crosstab.Expr.Eval
import Crosstab.Frame.Reduction

/-!
# Aggregates

An `Aggregate` gives a cell for every group of rows.
-/

namespace Crosstab

/-- An expression with a cell for every group. -/
inductive Aggregate where
  /-- A scalar, reduced. -/
  | reduce (r : Reduction) (e : Expr)
  /-- The number of rows. -/
  | countRows
  /-- The quotient of two sums, with a fixed value where the denominator is zero or null. -/
  | ratio (numerator denominator : Expr) (fill : Binary64)
  deriving Repr, BEq

namespace Aggregate

/-- Evaluates a scalar on a table and reduces the cells of each group. -/
def reduceGroups (f : Frame) (groups : List (List Nat)) (r : Reduction) (e : Expr) :
    Outcome (List Cell) := do
  let values ← e.evaluate f
  groups.mapM fun rows => r.apply (rows.map fun i => values.getD i .null)

/-- Evaluates an aggregate; a group is given by the positions of its rows. -/
def eval (f : Frame) (groups : List (List Nat)) : Aggregate → Outcome (List Cell)
  | reduce r e => reduceGroups f groups r e
  | countRows => .ok (groups.map fun rows => Reduction.countCell rows.length)
  | ratio n d fill => do
    let ns ← reduceGroups f groups .sum n
    let ds ← reduceGroups f groups .sum d
    (ns.zip ds).mapM fun (a, b) => Cell.safeDivide a b fill

/-- The columns that an aggregate reads, sorted. -/
def dependencies : Aggregate → List String
  | reduce _ e => e.dependencies
  | countRows => []
  | ratio n d _ => sortedNames (n.columns Clause.columns ++ d.columns Clause.columns)

end Aggregate

end Crosstab
