/-!
# Arithmetic runs of code points

Character properties are sets of code points.  A `Run` holds the code points `first`,
`first + step`, … up to `last`; a property is a list of runs.
-/

namespace Crosstab.Text

/-- The numbers `first`, `first + step`, … up to `last`. -/
structure Run where
  /-- The first member. -/
  first : Nat
  /-- The last member. -/
  last : Nat
  /-- The distance between neighbours. -/
  step : Nat
  deriving DecidableEq, Repr

namespace Run

/-- Whether a number belongs to the run. -/
def has (r : Run) (n : Nat) : Bool :=
  r.first ≤ n && n ≤ r.last && (n - r.first) % r.step == 0

end Run

end Crosstab.Text
