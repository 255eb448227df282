import Crosstab.Expr.Structured
import Crosstab.Sql.Emit

/-!
# Measures

A `Measure` is a named value of every group: a scalar that is computed row by row and then reduced,
or an aggregate.
-/

namespace Crosstab

/-- A named value of every group. -/
inductive Measure where
  /-- A scalar of every row, reduced. -/
  | row (name : String) (reduction : Reduction) (expr : Expr)
  /-- An aggregate of the rows. -/
  | group (name : String) (aggregate : Aggregate)
  deriving Repr, BEq

/-- The reduction of a name. -/
def Reduction.ofName (s : String) : Outcome Reduction :=
  match ofName? s with
  | some r => .ok r
  | none => reject (.unknownAggregation s)

namespace Measure

/-- The name of a measure. -/
def name : Measure → String
  | row name _ _ => name
  | group name _ => name

/-- The aggregate that a measure computes for each group. -/
def aggregate : Measure → Aggregate
  | row _ r e => .reduce r e
  | group _ a => a

/-- The columns that a measure reads, sorted. -/
def dependencies (m : Measure) : List String := m.aggregate.dependencies

/-- Writes a measure. -/
def emit (d : Dialect) (m : Measure) : Outcome (List Sql.Token) := m.aggregate.emit d

/-- A measure as text. -/
def sql (d : Dialect) (m : Measure) : Outcome String := m.aggregate.sql d

/-! ## Structured form -/

/-- The structured form of a measure. -/
def toJson : Measure → Json
  | row name r e =>
    .tagged "type" "row_measure"
      [("name", .string name), ("agg", .string r.name), ("expr", e.structured)]
  | group name a =>
    .tagged "type" "agg_measure" [("name", .string name), ("agg_expr", a.toJson)]

/-- The names of reductions in structured forms. -/
def reductionChoices : List (String × Reduction) :=
  Reduction.all.flatMap fun r => r.names.map fun name => (name, r)

/-- The measure with a structured form. -/
def ofJson? (value : Json) : Option Measure := do
  let (kind, body) ← Json.untag? "type" false ["row_measure", "agg_measure"] value
  match kind with
  | "row_measure" =>
    let r ← Json.Record.open? ["name", "agg", "expr"] body
    return row (← r.required "name" Json.string?)
      (← r.withDefault "agg" .mean (Json.choice? true reductionChoices))
      (← r.required "expr" (Expr.ofJson? true))
  | _ =>
    let r ← Json.Record.open? ["name", "agg_expr"] body
    return group (← r.required "name" Json.string?)
      (← r.required "agg_expr" (Aggregate.ofJson? true))

end Measure

end Crosstab
