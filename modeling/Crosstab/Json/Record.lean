import Crosstab.Json.Basic
import Crosstab.Binary64.Arith

/-!
# Records in structured values

The structured forms of a specification are records, choices between tagged records, and names from
a fixed list.

* A record is an object or, with its fields in their declared order, an array.  An object may have
  further fields, but none of the declared ones twice.  At the end of an array fields may be missing
  that have a default.
* A tagged record has one field more, its tag, which an array has at its head.  Within another
  tagged record the tag may also be the place of the tag in the list of all tags.
* A name is a string, or an object with the name as its only field and nothing in it.
-/

namespace Crosstab.Json

/-! ## Records -/

/-- The declared fields that a structured value has. -/
structure Record where
  /-- The fields by name. -/
  values : List (String × Json)
  /-- Whether the value was an array. -/
  positional : Bool

namespace Record

/-- Opens a value as a record with declared fields. -/
def open? (names : List String) : Json → Option Record
  | .object fields =>
    let declared := fields.filter fun f => names.contains f.1
    if (declared.map (·.1)).Nodup then some ⟨declared, false⟩ else none
  | .array items => if items.length ≤ names.length then some ⟨names.zip items, true⟩ else none
  | _ => none

variable {α : Type}

/-- A field that must be there. -/
def required (r : Record) (name : String) (decode : Json → Option α) : Option α :=
  (r.values.lookup name).bind decode

/-- A field with a default. -/
def withDefault (r : Record) (name : String) (default : α) (decode : Json → Option α) : Option α :=
  match r.values.lookup name with
  | none => some default
  | some value => decode value

/-- A value that may be null. -/
def nullable (decode : Json → Option α) : Json → Option (Option α)
  | .null => some none
  | value => (decode value).map some

/-- A field that may be null, and may be missing from an object. -/
def optional (r : Record) (name : String) (decode : Json → Option α) : Option (Option α) :=
  match r.values.lookup name with
  | none => if r.positional then none else some none
  | some value => nullable decode value

/-- A field that may be null or missing. -/
def omissible (r : Record) (name : String) (decode : Json → Option α) : Option (Option α) :=
  r.withDefault name none (nullable decode)

end Record

/-! ## Tagged records -/

/-- The tag that a value stands for; `inside` tells whether a place in the list is understood. -/
def tagOf? (inside : Bool) (tags : List String) : Json → Option String
  | .string s => if tags.contains s then some s else none
  | .number (.whole n) => if inside && 0 ≤ n then tags[n.toNat]? else none
  | _ => none

/-- Splits a tagged record into its tag and the rest. -/
def untag? (field : String) (inside : Bool) (tags : List String) : Json → Option (String × Json)
  | .object fields => match fields.filter fun f => f.1 == field with
    | [(_, tag)] => (tagOf? inside tags tag).map fun t =>
        (t, .object (fields.filter fun f => f.1 != field))
    | _ => none
  | .array (tag :: rest) => (tagOf? inside tags tag).map fun t => (t, .array rest)
  | _ => none

/-! ## Simple values -/

/-- A string. -/
def string? : Json → Option String
  | .string s => some s
  | _ => none

/-- A truth value. -/
def bool? : Json → Option Bool
  | .bool b => some b
  | _ => none

/-- A number as a float. -/
def float? : Json → Option Binary64
  | .number (.whole n) => some (Binary64.ofInt n)
  | .number (.float x) => some x
  | _ => none

/-- A whole number that is not negative. -/
def count? : Json → Option Nat
  | .number (.whole n) => if 0 ≤ n then some n.toNat else none
  | _ => none

/-- A list of values. -/
def list? {α : Type} (decode : Json → Option α) : Json → Option (List α)
  | .array items => items.mapM decode
  | _ => none

/-- A name from a list; `inside` tells whether the object may hold an empty object for nothing. -/
def choice? {α : Type} (inside : Bool) (choices : List (String × α)) : Json → Option α
  | .string s => choices.lookup s
  | .object [(s, .null)] => choices.lookup s
  | .object [(s, .object [])] => if inside then choices.lookup s else none
  | _ => none

/-! ## Writing -/

/-- A tagged record. -/
def tagged (field tag : String) (fields : List (String × Json)) : Json :=
  .object ((field, .string tag) :: fields)

end Crosstab.Json
