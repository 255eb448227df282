import Crosstab.Calendar.Grain
import Crosstab.Frame.Basic
import Crosstab.Json.Record

/-!
# Dimensions

A `Dimension` is a column that a report groups by, possibly put into time buckets.  The buckets of
a dimension are a column of their own, whose name is made of the names of dimension and grain.
-/

namespace Crosstab

/-- Where the values of a dimension end up. -/
inductive Role where
  /-- They label the rows of a table. -/
  | row
  /-- They are spread over the columns of a table. -/
  | column
  /-- They divide the report into tables. -/
  | slicer
  deriving DecidableEq, Repr

namespace Role

/-- The name of a role. -/
def name : Role → String
  | .row => "row"
  | .column => "column"
  | .slicer => "slicer"

/-- The names of the roles. -/
def choices : List (String × Role) := [.row, .column, .slicer].map fun r => (r.name, r)

end Role

/-- A column that a report groups by. -/
structure Dimension where
  /-- The name of the column. -/
  name : String
  /-- Where its values end up. -/
  role : Role := .row
  /-- Levels below the dimension; grouping does not look at them. -/
  levels : List String := []
  /-- The name of the time grain, if there is one. -/
  timeGrain : Option String := none
  deriving DecidableEq, Repr

/-- The time grain of a name. -/
def TimeGrain.ofName (s : String) : Outcome TimeGrain :=
  match ofName? s with
  | some g => .ok g
  | none => reject (.unknownTimeGrain s)

namespace Dimension

/-- The time grain, if there is one. -/
def grain (d : Dimension) : Outcome (Option TimeGrain) :=
  match d.timeGrain with
  | none => .ok none
  | some s => (TimeGrain.ofName s).map some

/-- The name of the column of buckets. -/
def bucketName (name : String) (g : TimeGrain) : String := "__" ++ name ++ "@" ++ g.name ++ "__"

/-- The name of the column that is grouped by. -/
def keyName (d : Dimension) : Outcome String := do
  match ← d.grain with
  | none => return d.name
  | some g => return bucketName d.name g

/-- The name of the column that is grouped by and, if it holds buckets, the column itself. -/
def resolve (d : Dimension) (f : Frame) : Outcome (String × Option Column) := do
  let source ← f.require d.name
  match ← d.grain with
  | none => return (d.name, none)
  | some g =>
    let key := bucketName d.name g
    return (key, some ⟨key, source.values.map g.bucket⟩)

/-! ## Structured form -/

/-- The structured form of a dimension. -/
def toJson (d : Dimension) : Json :=
  .object [("name", .string d.name), ("role", .string d.role.name), ("levels", .strings d.levels),
    ("time_grain", .ofOption .string d.timeGrain)]

/-- The names of the fields, in order. -/
def fieldNames : List String := ["name", "role", "levels", "time_grain"]

/-- The dimension with a structured form. -/
def ofJson? (value : Json) : Option Dimension := do
  let r ← Json.Record.open? fieldNames value
  return ⟨← r.required "name" Json.string?,
    ← r.withDefault "role" .row (Json.choice? false Role.choices),
    ← r.withDefault "levels" [] (Json.list? Json.string?),
    ← r.omissible "time_grain" Json.string?⟩

end Dimension

end Crosstab
