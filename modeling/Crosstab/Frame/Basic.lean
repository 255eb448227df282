import Crosstab.Fault

/-!
# Frames

A `Frame` is a table: named columns of one length, in order.  The length is kept apart from the
columns, because a table without columns still has rows.
-/

namespace Crosstab

/-- A named column of cells. -/
structure Column where
  /-- The name. -/
  name : String
  /-- The cells, one for each row. -/
  values : List Cell
  deriving DecidableEq, Repr

/-- A table of named columns. -/
structure Frame where
  /-- The columns, in order. -/
  columns : List Column
  /-- The number of rows. -/
  len : Nat
  deriving DecidableEq, Repr

namespace Frame

/-! ## Building -/

/-- A table without columns. -/
def withLen (n : Nat) : Frame := ⟨[], n⟩

/-- The table without columns and rows. -/
def empty : Frame := withLen 0

/-- Puts a column in place of the one of its name, or after the others. -/
def putColumn (c : Column) : List Column → List Column
  | [] => [c]
  | d :: rest => if d.name = c.name then c :: rest else d :: putColumn c rest

/-- Putting a column keeps all names and their order; a new name comes last. -/
theorem map_name_putColumn (c : Column) (cs : List Column) :
    (putColumn c cs).map (·.name) =
      if c.name ∈ cs.map (·.name) then cs.map (·.name) else cs.map (·.name) ++ [c.name] := by
  induction cs with
  | nil => simp [putColumn]
  | cons d rest ih =>
    unfold putColumn
    by_cases h : d.name = c.name
    · simp [h]
    · have h' : ¬ c.name = d.name := fun e => h e.symm
      simp only [h, if_false, List.map_cons, ih, List.mem_cons, h', false_or]
      split <;> simp

/-- Adds a column, or replaces the one of its name; a table without columns and rows takes its
length from the column. -/
def insert (f : Frame) (c : Column) : Outcome Frame :=
  let len := if f.columns.isEmpty && f.len == 0 then c.values.length else f.len
  if c.values.length = len then .ok ⟨putColumn c f.columns, len⟩
  else reject (.lengthMismatch c.name len c.values.length)

/-- A table of columns; the first one fixes the length. -/
def ofColumns (cs : List Column) : Outcome Frame :=
  cs.foldlM insert (withLen ((cs.head?.map (·.values.length)).getD 0))

/-! ## Looking up -/

/-- The names of the columns. -/
def names (f : Frame) : List String := f.columns.map (·.name)

/-- Whether the table has no rows. -/
def isEmpty (f : Frame) : Bool := f.len == 0

/-- The column of a name. -/
def column? (f : Frame) (name : String) : Option Column := f.columns.find? (·.name == name)

/-- Whether there is a column of a name. -/
def hasColumn (f : Frame) (name : String) : Bool := (f.column? name).isSome

theorem hasColumn_iff {f : Frame} {name : String} : f.hasColumn name = true ↔ name ∈ f.names := by
  simp [hasColumn, column?, names]

/-- The column of a name, which must be there. -/
def require (f : Frame) (name : String) : Outcome Column :=
  match f.column? name with
  | some c => .ok c
  | none => reject (.missingColumn name)

/-! ## Rows -/

/-- The rows at some positions, in the order of the positions. -/
def take (f : Frame) (rows : List Nat) : Frame :=
  ⟨f.columns.map fun c => ⟨c.name, rows.map fun i => c.values.getD i .null⟩, rows.length⟩

theorem take_len (f : Frame) (rows : List Nat) : (f.take rows).len = rows.length := rfl

theorem names_take (f : Frame) (rows : List Nat) : (f.take rows).names = f.names := by
  simp [names, take]

/-- The positions at which a mask is true. -/
def kept (mask : List Bool) : List Nat := mask.zipIdx.filterMap fun (keep, i) =>
  if keep then some i else none

/-- The rows at which a mask is true; rows beyond the mask are dropped. -/
def filter (f : Frame) (mask : List Bool) : Frame := f.take (kept mask)

/-! ## Groups -/

/-- Rows with one key: the key and the positions of its rows. -/
abbrev Group := List Cell × List Nat

/-- Adds a row to the group of its key, or opens a group after the others. -/
def addToGroup (key : List Cell) (row : Nat) : List Group → List Group
  | [] => [(key, [row])]
  | (other, rows) :: rest =>
    if other = key then (other, rows ++ [row]) :: rest
    else (other, rows) :: addToGroup key row rest

/-- The key of a row. -/
def keyAt (columns : List Column) (row : Nat) : List Cell :=
  columns.map fun c => c.values.getD row .null

/-- The rows grouped by the cells of some columns, in the order in which the keys appear; without
columns all rows are one group. -/
def groups (f : Frame) (keys : List String) : Outcome (List Group) :=
  match keys with
  | [] => .ok [([], List.range f.len)]
  | _ => do
    let columns ← keys.mapM f.require
    return (List.range f.len).foldl (fun gs row => addToGroup (keyAt columns row) row gs) []

end Frame

end Crosstab
