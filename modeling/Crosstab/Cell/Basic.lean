import Crosstab.Binary64.Arith
import Crosstab.Calendar.Written

/-!
# Cells

A `Cell` is one untyped value of a table.  Three relations between cells are kept apart.

* Equality is structural: the whole number one, the float one and the text `1` are three cells, and
  so are the two zeros of the floats.  Groups are formed by it.
* `compare?` is the comparison of SQL: nothing compares with null, whole numbers and floats compare
  by value, and a text next to a date or a timestamp is read as one.
* `order` sorts rows: it orders any two cells, kind by kind where they do not compare, and puts
  nulls last.
-/

namespace Crosstab

/-- A value of a table. -/
inductive Cell where
  | null
  | bool (b : Bool)
  | int (n : Int64)
  | float (x : Binary64)
  | text (s : String)
  | date (d : Date)
  | timestamp (t : Timestamp)
  deriving DecidableEq, Repr

instance : Inhabited Cell := ⟨.null⟩

/-! ## Whole numbers of 64 bits -/

/-- The number as a signed number of 64 bits, if it is in range. -/
def int64? (n : Int) : Option Int64 :=
  if Int64.minValue.toInt ≤ n ∧ n ≤ Int64.maxValue.toInt then some (Int64.ofInt n) else none

namespace Cell

/-! ## Parts -/

/-- Whether the cell is null. -/
def isNull (c : Cell) : Bool := c == .null

theorem isNull_iff {c : Cell} : c.isNull = true ↔ c = null := by simp [isNull]

/-- Whether the cell is a whole number or a float. -/
def isNumeric : Cell → Bool
  | .int _ => true
  | .float _ => true
  | _ => false

/-- The number that the cell holds, as a float. -/
def number? : Cell → Option Binary64
  | .int n => some (Binary64.ofInt n.toInt)
  | .float x => some x
  | _ => none

/-- The text that the cell holds. -/
def text? : Cell → Option String
  | .text s => some s
  | _ => none

/-- The word for the kind of a cell. -/
def kindName : Cell → String
  | .null => "null"
  | .bool _ => "bool"
  | .int _ => "int"
  | .float _ => "float"
  | .text _ => "string"
  | .date _ => "date"
  | .timestamp _ => "timestamp"

/-! ## Dates and timestamps -/

/-- The date of the cell: a timestamp loses its time, a text is read as a date or else as a
timestamp. -/
def date? : Cell → Option Date
  | .date d => some d
  | .timestamp t => some t.date
  | .text s => (Calendar.dateOf? s).or ((Calendar.timestampOf? s).map (·.date))
  | _ => none

/-- The timestamp of the cell: a date stands for its midnight, a text is read as a timestamp or
else as a date. -/
def timestamp? : Cell → Option Timestamp
  | .timestamp t => some t
  | .date d => some (Timestamp.ofDate d)
  | .text s => (Calendar.timestampOf? s).or ((Calendar.dateOf? s).map Timestamp.ofDate)
  | _ => none

/-! ## Comparison in SQL -/

/-- Compares two texts by code points. -/
def textOrder (s t : String) : Ordering := compareOfLessAndEq s t

/-- Compares two dates that may be missing. -/
def dateOrder? (a b : Option Date) : Option Ordering := do return (← a).order (← b)

/-- Compares two timestamps that may be missing. -/
def timestampOrder? (a b : Option Timestamp) : Option Ordering := do return (← a).order (← b)

/-- The comparison of SQL; it is unknown next to a null and between kinds that do not compare. -/
def compare? : Cell → Cell → Option Ordering
  | .int a, .int b => some (compare a.toInt b.toInt)
  | .int a, .float y => (Binary64.ofInt a.toInt).compare? y
  | .float x, .int b => x.compare? (Binary64.ofInt b.toInt)
  | .float x, .float y => x.compare? y
  | .bool a, .bool b => some (compare a b)
  | .text s, .text t => some (textOrder s t)
  | .date d, .date e => some (d.order e)
  | .date d, .text t => dateOrder? (some d) (text t).date?
  | .text s, .date e => dateOrder? (text s).date? (some e)
  | .timestamp t, .timestamp u => some (t.order u)
  | .timestamp t, .date e => some (t.order (Timestamp.ofDate e))
  | .timestamp t, .text s => timestampOrder? (some t) (text s).timestamp?
  | .date d, .timestamp u => some ((Timestamp.ofDate d).order u)
  | .text s, .timestamp u => timestampOrder? (text s).timestamp? (some u)
  | _, _ => none

/-- A text has the same place as itself. -/
theorem textOrder_self (s : String) : textOrder s s = .eq := by
  simp [textOrder, compareOfLessAndEq]

/-- Equality in SQL: unknown next to a null, false between kinds that do not compare. -/
def sqlEq? (a b : Cell) : Option Bool :=
  if a.isNull || b.isNull then none else some (a.compare? b == some .eq)

/-! ## Sorting order -/

/-- The place of a kind among the kinds. -/
def rank : Cell → Nat
  | .bool _ => 0
  | .int _ => 1
  | .float _ => 1
  | .text _ => 2
  | .date _ => 3
  | .timestamp _ => 4
  | .null => 5

/-- The order in which rows are sorted: nulls last, floats in their total order, and cells that do
not compare by their kind. -/
def order : Cell → Cell → Ordering
  | .null, .null => .eq
  | .null, _ => .gt
  | _, .null => .lt
  | .float x, .float y => x.totalOrder y
  | a, b => (a.compare? b).getD (compare a.rank b.rank)

/-- Every cell, a NaN included, has the same place as itself. -/
theorem order_self (c : Cell) : c.order c = .eq := by
  cases c <;>
    simp [order, compare?, textOrder_self, Date.order_self, Timestamp.order_self,
      Binary64.totalOrder_self]

end Cell

end Crosstab
