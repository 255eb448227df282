import Crosstab.Binary64.Basic

/-!
# Structured values

`Json` is the language-neutral form in which specifications, records and results are exchanged.  An
object keeps its fields in the order in which they were written; `canonical` sorts them by name and
lets the last of several fields with one name win.
-/

namespace Crosstab

/-- A number: whole where it was written as a whole number that fits 64 bits, otherwise binary. -/
inductive Json.Number where
  | whole (n : Int)
  | float (x : Binary64)
  deriving DecidableEq, Repr

/-- A structured value. -/
inductive Json where
  | null
  | bool (b : Bool)
  | number (n : Json.Number)
  | string (s : String)
  | array (items : List Json)
  | object (fields : List (String × Json))
  deriving Repr, BEq, Inhabited

namespace Json

/-! ## Building -/

/-- A whole number. -/
def whole (n : Int) : Json := .number (.whole n)

/-- A finite float; the others have no number and become null. -/
def ofFloat (x : Binary64) : Json := if x.isFinite then .number (.float x) else .null

/-- A list of texts. -/
def strings (ss : List String) : Json := .array (ss.map .string)

/-- A value that may be missing. -/
def ofOption {α : Type} (encode : α → Json) : Option α → Json
  | some a => encode a
  | none => .null

/-! ## Looking up -/

/-- The value of the first field with a name. -/
def field? (name : String) : Json → Option Json
  | .object fields => (fields.find? (·.1 == name)).map (·.2)
  | _ => none

/-! ## Depth -/

mutual

/-- How deep arrays and objects nest. -/
def depth : Json → Nat
  | .array items => depthOfItems items + 1
  | .object fields => depthOfFields fields + 1
  | _ => 0

/-- The greatest depth among the items of an array. -/
def depthOfItems : List Json → Nat
  | [] => 0
  | item :: rest => max item.depth (depthOfItems rest)

/-- The greatest depth among the fields of an object. -/
def depthOfFields : List (String × Json) → Nat
  | [] => 0
  | (_, value) :: rest => max value.depth (depthOfFields rest)

end

/-! ## Canonical order -/

/-- Puts a field into a list sorted by name, in place of one with the same name. -/
def insertField (name : String) (value : Json) : List (String × Json) → List (String × Json)
  | [] => [(name, value)]
  | (other, old) :: rest =>
    if name < other then (name, value) :: (other, old) :: rest
    else if name = other then (name, value) :: rest
    else (other, old) :: insertField name value rest

/-- The fields sorted by name, the last of each name kept. -/
def sortFields (fields : List (String × Json)) : List (String × Json) :=
  fields.foldl (fun sorted f => insertField f.1 f.2 sorted) []

mutual

/-- The value with the fields of every object sorted by name, the last of each name kept. -/
def canonical : Json → Json
  | .array items => .array (canonicalItems items)
  | .object fields => .object (sortFields (canonicalFields fields))
  | value => value

/-- The canonical forms of the items of an array. -/
def canonicalItems : List Json → List Json
  | [] => []
  | item :: rest => item.canonical :: canonicalItems rest

/-- The fields of an object with canonical values. -/
def canonicalFields : List (String × Json) → List (String × Json)
  | [] => []
  | (name, value) :: rest => (name, value.canonical) :: canonicalFields rest

end

end Json

end Crosstab
