import Crosstab.Frame.Basic

/-!
# Tables as records

A table is exchanged as an array of objects, one for each row.  The columns of a table that is read
stand in the order in which the records name them, where the fields of a record are taken in the
order of their names; a field that a record lacks is null.
-/

namespace Crosstab.Frame

/-! ## Reading -/

/-- The fields of each record. -/
def recordFields (rows : List Json) : Outcome (List (List (String × Json))) :=
  rows.mapM fun
    | .object fields => .ok fields
    | value => reject (.notRecord value)

/-- The names of all fields, each at its first place. -/
def fieldNames (records : List (List (String × Json))) : List String :=
  records.foldl (fun names fields =>
    fields.foldl (fun names f => if f.1 ∈ names then names else names ++ [f.1]) names) []

/-- The cell of a record in a column. -/
def recordCell (fields : List (String × Json)) (name : String) : Outcome Cell :=
  match fields.lookup name with
  | none => .ok .null
  | some value => match Cell.ofJson? value with
    | some c => .ok c
    | none => reject .unreadable

/-- The table that records stand for. -/
def ofRecords (data : Json) : Outcome Frame :=
  match data.canonical with
  | .array rows => do
    let records ← recordFields rows
    let names := fieldNames records
    let cells ← records.mapM fun fields => names.mapM (recordCell fields)
    let columns := names.zipIdx.map fun (name, i) => ⟨name, cells.map (·.getD i .null)⟩
    let frame ← ofColumns columns
    return { frame with len := rows.length }
  | _ => reject .notRecords

/-! ## Writing -/

/-- The row at a position as a record. -/
def record (f : Frame) (row : Nat) : Json :=
  .object (Json.sortFields (f.columns.map fun c => (c.name, (c.values.getD row .null).toJson)))

/-- The rows of a table as records. -/
def toRecords (f : Frame) : Json := .array ((List.range f.len).map f.record)

end Crosstab.Frame
