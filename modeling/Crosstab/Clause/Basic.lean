import Crosstab.Sql.Dialect

/-!
# Clauses

A `Clause` is a condition that is given as the text of a `WHERE` or `HAVING` clause.
-/

namespace Crosstab

/-- A condition as text. -/
structure Clause where
  /-- The text, possibly with its leading keyword. -/
  text : String
  /-- The dialect that the text is written in. -/
  dialect : Dialect
  deriving DecidableEq, Repr

end Crosstab
