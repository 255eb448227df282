import Crosstab.Json.Basic

/-!
# Tables of settings files

A settings file in TOML fills a tree of tables.  What may be added to a table depends on how it came
to be: a table that a header names is complete once the next header begins, but tables below it may
still get headers; a table that dotted keys have made grows only by dotted keys of the same header; a
table written as a value never grows.

`Entries.addKey`, `Entries.addHeader` and `Entries.addElement` add to the tree and fail where the
format forbids it.
-/

namespace Crosstab.Toml

/-- How a table came to be. -/
inductive Origin where
  /-- A header names it. -/
  | header
  /-- It is part of the name in a longer header. -/
  | implied
  /-- It is part of a dotted key. -/
  | dotted
  /-- It is written as a value. -/
  | inline
  deriving DecidableEq, Repr

/-- What a key stands for. -/
inductive Node where
  /-- A value without parts. -/
  | scalar (value : Json)
  /-- An array written as a value. -/
  | array (items : List Node)
  /-- A table. -/
  | table (origin : Origin) (entries : List (String × Node))
  /-- An array of tables that headers name: the complete ones and the entries of the last one. -/
  | tables (complete : List Node) (last : List (String × Node))
  deriving Repr

/-- The entries of a table, in the order in which they were added. -/
abbrev Entries := List (String × Node)

namespace Entries

/-- Changes the entry of a key; the change sees whether there is one, and may fail. -/
def alter (key : String) (change : Option Node → Option Node) : Entries → Option Entries
  | [] => (change none).map fun node => [(key, node)]
  | (other, node) :: rest =>
    if other = key then (change (some node)).map fun node => (other, node) :: rest
    else (alter key change rest).map ((other, node) :: ·)

/-- Changes the table at the end of a path.  Tables that are missing on the way are made with an
origin; dotted keys do not pass through a table that has a header. -/
def within (made : Origin) (change : Origin → Entries → Option Entries) :
    List String → Origin → Entries → Option Entries
  | [], origin, entries => change origin entries
  | key :: path, _, entries => entries.alter key fun
    | none => (within made change path made []).map (.table made)
    | some (.table origin inner) =>
      if origin = .inline || (made = .dotted && origin = .header) then none
      else (within made change path origin inner).map (.table origin)
    | some (.tables complete last) =>
      (within made change path .header last).map (.tables complete)
    | some _ => none

/-- Puts a value under a key that is not there yet. -/
def put (key : String) (value : Node) (entries : Entries) : Option Entries :=
  entries.alter key fun
    | none => some value
    | some _ => none

/-- Adds a value under a dotted key, given by the parts before the last one and the last one. -/
def addKey (path : List String) (key : String) (value : Node) (entries : Entries) :
    Option Entries :=
  within .dotted (fun origin inner =>
    if path.isEmpty = (origin == .dotted) then none else inner.put key value) path .header entries

/-- Starts the table of a header. -/
def addHeader (path : List String) (key : String) (entries : Entries) : Option Entries :=
  within .implied (fun _ inner => inner.alter key fun
    | none => some (.table .header [])
    | some (.table .implied below) => some (.table .header below)
    | some _ => none) path .header entries

/-- Starts another table of an array of tables. -/
def addElement (path : List String) (key : String) (entries : Entries) : Option Entries :=
  within .implied (fun _ inner => inner.alter key fun
    | none => some (.tables [] [])
    | some (.tables complete last) => some (.tables (complete ++ [.table .header last]) [])
    | some _ => none) path .header entries

/-- Adds a value under a dotted key of the table that a header has started. -/
def addBelow (header path : List String) (key : String) (value : Node) (entries : Entries) :
    Option Entries :=
  within .implied (fun _ inner => inner.addKey path key value) header .header entries

end Entries

/-! ## As structured values -/

mutual

/-- A node as a structured value. -/
def Node.toJson : Node → Json
  | .scalar value => value
  | .array items => .array (listToJson items)
  | .table _ entries => .object (entriesToJson entries)
  | .tables complete last => .array (listToJson complete ++ [.object (entriesToJson last)])

/-- Nodes as structured values. -/
def listToJson : List Node → List Json
  | [] => []
  | node :: rest => node.toJson :: listToJson rest

/-- Entries as fields. -/
def entriesToJson : List (String × Node) → List (String × Json)
  | [] => []
  | (key, node) :: rest => (key, node.toJson) :: entriesToJson rest

end

end Crosstab.Toml
