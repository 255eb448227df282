import Crosstab.Calendar.Date

/-!
# Points in time

A `Timestamp` is a date with a time of day to the nanosecond.  Second 60 is a leap second; it
follows second 59 of any minute.
-/

namespace Crosstab

/-- A time of day. -/
structure TimeOfDay where
  /-- The hour, from 0 to 23. -/
  hour : Fin 24
  /-- The minute, from 0 to 59. -/
  minute : Fin 60
  /-- The second, from 0 to 60. -/
  second : Fin 61
  /-- The nanosecond within the second. -/
  nanosecond : Fin 1000000000
  deriving DecidableEq, Repr

namespace TimeOfDay

/-- The start of the day. -/
def midnight : TimeOfDay := ⟨0, 0, 0, 0⟩

/-- The time with the given parts, if each is in its range. -/
def of? (hour minute second nanosecond : Nat) : Option TimeOfDay :=
  if h : hour < 24 ∧ minute < 60 ∧ second < 61 ∧ nanosecond < 1000000000 then
    some ⟨⟨hour, h.1⟩, ⟨minute, h.2.1⟩, ⟨second, h.2.2.1⟩, ⟨nanosecond, h.2.2.2⟩⟩
  else none

/-- Times are ordered by hour, minute, second and nanosecond. -/
def order (a b : TimeOfDay) : Ordering :=
  (compare a.hour b.hour).then ((compare a.minute b.minute).then
    ((compare a.second b.second).then (compare a.nanosecond b.nanosecond)))

theorem order_self (t : TimeOfDay) : t.order t = .eq := by simp [order]

end TimeOfDay

/-- A date with a time of day. -/
structure Timestamp where
  /-- The day. -/
  date : Date
  /-- The time within the day. -/
  time : TimeOfDay
  deriving DecidableEq, Repr

namespace Timestamp

/-- The start of a day. -/
def ofDate (d : Date) : Timestamp := ⟨d, TimeOfDay.midnight⟩

/-- Timestamps are ordered by date, then by time. -/
def order (a b : Timestamp) : Ordering := (a.date.order b.date).then (a.time.order b.time)

theorem order_self (t : Timestamp) : t.order t = .eq := by
  simp [order, Date.order_self, TimeOfDay.order_self]

end Timestamp

end Crosstab
