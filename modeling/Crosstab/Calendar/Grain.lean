import Crosstab.Cell.Basic
import Crosstab.Text.Case

/-!
# Time grains

A `TimeGrain` puts dates into buckets: days, weeks that start on Monday, months, quarters or years.
A bucket is named by its first day.
-/

namespace Crosstab

/-- The size of a bucket of dates. -/
inductive TimeGrain where
  | day
  | week
  | month
  | quarter
  | year
  deriving DecidableEq, Repr

namespace TimeGrain

/-- All grains. -/
def all : List TimeGrain := [.day, .week, .month, .quarter, .year]

/-- Every grain is listed. -/
theorem mem_all (g : TimeGrain) : g ∈ all := by cases g <;> decide

/-- The name of a grain. -/
def name : TimeGrain → String
  | .day => "day"
  | .week => "week"
  | .month => "month"
  | .quarter => "quarter"
  | .year => "year"

/-- The names under which a grain is known: its name and its first letter. -/
def names (g : TimeGrain) : List String := [g.name, String.ofList (g.name.toList.take 1)]

/-- The grain of a name; case and white space around it do not matter. -/
def ofName? (s : String) : Option TimeGrain :=
  all.find? fun g => g.names.contains (Text.lower (Text.trim s))

/-- The name of a grain names it. -/
theorem ofName?_name (g : TimeGrain) : ofName? g.name = some g := by cases g <;> decide +kernel

/-- The first day of the month, in the year of a date. -/
def firstOf (d : Date) (month : Nat) : Date := (Date.of? d.year month 1).getD d

/-- The first day of the bucket that a date falls into.

The first date of all is no Monday.  The week of the few dates before the first Monday begins before
the calendar does, so they have no bucket: counting back to its first day stops the program, and what
is given here stands in for that (`Date.pred`). -/
def truncate (g : TimeGrain) (d : Date) : Date :=
  match g with
  | .day => d
  | .week => d.back d.weekday
  | .month => firstOf d d.month
  | .quarter => firstOf d ((d.month - 1) / 3 * 3 + 1)
  | .year => firstOf d 1

/-- The bucket of a cell; a cell that has no date has no bucket. -/
def bucket (g : TimeGrain) (c : Cell) : Cell :=
  match c.date? with
  | some d => .date (g.truncate d)
  | none => .null

end TimeGrain

end Crosstab
