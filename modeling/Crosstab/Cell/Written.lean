import Crosstab.Cell.Basic
import Crosstab.Binary64.Shortest
import Crosstab.Json.Basic

/-!
# Cells as text and as structured values

`display` is what a person reads.  `toJson` is the bare form of records and results, in which dates
are strings.  `toTaggedJson` is the form of literals inside expressions, in which a date or a
timestamp is an object with one field, so that reading it does not give a text.
-/

namespace Crosstab.Cell

/-- The cell as a person reads it; null is empty. -/
def display : Cell → String
  | .null => ""
  | .bool true => "true"
  | .bool false => "false"
  | .int n => String.ofList (Binary64.intChars n.toInt)
  | .float x => x.text
  | .text s => s
  | .date d => Calendar.dateText d
  | .timestamp t => Calendar.timestampDisplay t

/-- The bare structured form. -/
def toJson : Cell → Json
  | .null => .null
  | .bool b => .bool b
  | .int n => .whole n.toInt
  | .float x => .ofFloat x
  | .text s => .string s
  | .date d => .string (Calendar.dateText d)
  | .timestamp t => .string (Calendar.timestampText t)

/-- The structured form of a literal. -/
def toTaggedJson : Cell → Json
  | .date d => .object [("date", .string (Calendar.dateText d))]
  | .timestamp t => .object [("timestamp", .string (Calendar.timestampText t))]
  | c => c.toJson

/-- The cell that a number stands for; a whole number of more than 64 bits becomes a float. -/
def ofNumber : Json.Number → Cell
  | .whole n => match int64? n with
    | some m => .int m
    | none => .float (Binary64.ofInt n)
  | .float x => .float x

/-- The cell with a structured form: a bare value, or an object with one field that is a tagged
date or timestamp. -/
def ofJson? : Json → Option Cell
  | .null => some .null
  | .bool b => some (.bool b)
  | .number n => some (ofNumber n)
  | .string s => some (.text s)
  | .object [("date", .string s)] => (Calendar.dateOf? s).map .date
  | .object [("timestamp", .string s)] => (Calendar.timestampOf? s).map .timestamp
  | _ => none

/-- The cells with the structured forms of an array. -/
def listOfJson? : Json → Option (List Cell)
  | .array items => items.mapM ofJson?
  | _ => none

end Crosstab.Cell
