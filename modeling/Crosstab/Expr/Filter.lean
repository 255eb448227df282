import Crosstab.Expr.Basic

/-!
# Filters of fields

A `Filter` is what a form for a report offers: a field has one value or one of several, or a
condition holds.  A list of filters is the conjunction of their conditions.
-/

namespace Crosstab

/-- A filter of rows. -/
inductive Filter where
  /-- A field has a value. -/
  | equal (field : String) (value : Cell)
  /-- A field has one of some values. -/
  | among (field : String) (values : List Cell)
  /-- A condition holds. -/
  | holds (p : Condition)
  deriving Repr, BEq

namespace Filter

/-- The condition of a filter. -/
def condition : Filter → Condition
  | equal field value => .compare .eq (.column field) (.literal value)
  | among field values => .member (.column field) values
  | holds p => p

/-- The conjunction of some filters, if there are any. -/
def conjunction? (filters : List Filter) : Option Condition :=
  Predicate.conjunction? (filters.map condition)

end Filter

end Crosstab
