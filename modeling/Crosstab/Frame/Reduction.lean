import Crosstab.Fault
import Crosstab.Text.Case

/-!
# Reductions

A `Reduction` makes one cell of many and leaves nulls out, as aggregates do in SQL: the sum, the
mean and the extremes of no cells are null, their count is zero.

A sum of whole numbers stays a whole number as long as every partial sum fits 64 bits.  Otherwise
it is the sum of the floats, added from left to right.
-/

namespace Crosstab

/-- A way to make one cell of many. -/
inductive Reduction where
  | sum
  | mean
  | min
  | max
  | count
  /-- The number of different cells. -/
  | distinct
  deriving DecidableEq, Repr

namespace Reduction

/-! ## Names -/

/-- All reductions. -/
def all : List Reduction := [.sum, .mean, .min, .max, .count, .distinct]

/-- Every reduction is listed. -/
theorem mem_all (r : Reduction) : r ∈ all := by cases r <;> decide

/-- The name of a reduction. -/
def name : Reduction → String
  | .sum => "sum"
  | .mean => "mean"
  | .min => "min"
  | .max => "max"
  | .count => "count"
  | .distinct => "nunique"

/-- The names under which a reduction is known. -/
def names : Reduction → List String
  | .mean => ["mean", "avg"]
  | r => [r.name]

/-- The reduction of a name; case and white space around it do not matter. -/
def ofName? (s : String) : Option Reduction :=
  all.find? fun r => r.names.contains (Text.lower (Text.trim s))

/-- The name of a reduction names it. -/
theorem ofName?_name (r : Reduction) : ofName? r.name = some r := by cases r <;> decide +kernel

/-! ## Numbers -/

/-- The number of a cell, which must have one. -/
def number (c : Cell) : Outcome Binary64 :=
  match c.number? with
  | some x => .ok x
  | none => reject (.notAggregable c)

/-! ## Sums and means -/

/-- The sum of floats, added from left to right. -/
def total (xs : List Binary64) : Binary64 := xs.foldl (· + ·) Binary64.zero

/-- Adds a cell to a sum of whole numbers, which ends at a cell that is none and at a partial sum
that does not fit. -/
def addWhole (sum : Option Int64) (c : Cell) : Option Int64 :=
  match sum, c with
  | some n, .int m => int64? (n.toInt + m.toInt)
  | _, _ => none

/-- The sum of cells that are not null. -/
def sumOf (cs : List Cell) : Outcome Cell := do
  let xs ← cs.mapM number
  match cs with
  | [] => return .null
  | _ => match cs.foldl addWhole (some 0) with
    | some n => return .int n
    | none => return .float (total xs)

/-- The mean of cells that are not null. -/
def meanOf (cs : List Cell) : Outcome Cell := do
  let xs ← cs.mapM number
  match xs with
  | [] => return .null
  | _ => return .float (total xs / Binary64.ofInt xs.length)

/-! ## Extremes -/

/-- The first of the least cells. -/
def least : List Cell → Cell
  | [] => .null
  | c :: rest => rest.foldl (fun best d => if best.order d == .gt then d else best) c

/-- The last of the greatest cells. -/
def greatest : List Cell → Cell
  | [] => .null
  | c :: rest => rest.foldl (fun best d => if best.order d == .gt then best else d) c

/-! ## Applying a reduction -/

/-- A count as a cell. -/
def countCell (n : Nat) : Cell := .int (Int64.ofNat n)

/-- The cell that a reduction makes of a list of cells. -/
def apply (r : Reduction) (cells : List Cell) : Outcome Cell :=
  let present := cells.filter fun c => !c.isNull
  match r with
  | .sum => sumOf present
  | .mean => meanOf present
  | .min => .ok (least present)
  | .max => .ok (greatest present)
  | .count => .ok (countCell present.length)
  | .distinct => .ok (countCell present.eraseDups.length)

end Reduction

end Crosstab
