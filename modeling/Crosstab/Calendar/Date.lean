/-!
# Calendar dates

A `Date` is a day of the proleptic Gregorian calendar, given by year, month and day; its type holds
only days that exist.  `dayNumber` counts the days from the first of January of year one, which was
a Monday.
-/

namespace Crosstab

/-! ## Months and years -/

/-- Whether a year has a leap day. -/
def isLeapYear (year : Int) : Bool :=
  year % 4 = 0 && (year % 100 ≠ 0 || year % 400 = 0)

/-- The number of days of a month. -/
def daysInMonth (year : Int) (month : Nat) : Nat :=
  if month = 2 then if isLeapYear year then 29 else 28
  else if month = 4 || month = 6 || month = 9 || month = 11 then 30
  else 31

/-- The first year that has dates. -/
def firstYear : Int := -262143

/-- The last year that has dates. -/
def lastYear : Int := 262142

/-- Whether year, month and day name a day that exists. -/
def isCalendarDay (year : Int) (month day : Nat) : Bool :=
  firstYear ≤ year && year ≤ lastYear && 1 ≤ month && month ≤ 12
    && 1 ≤ day && day ≤ daysInMonth year month

/-- A day of the calendar. -/
structure Date where
  /-- The year; year zero precedes year one. -/
  year : Int
  /-- The month, from 1 to 12. -/
  month : Nat
  /-- The day of the month, from 1. -/
  day : Nat
  /-- The day exists. -/
  exists_day : isCalendarDay year month day = true
  deriving DecidableEq, Repr

namespace Date

/-- The date with the given year, month and day, if it exists. -/
def of? (year : Int) (month day : Nat) : Option Date :=
  if h : isCalendarDay year month day = true then some ⟨year, month, day, h⟩ else none

/-- The parts of a date name it. -/
theorem of?_self (d : Date) : of? d.year d.month d.day = some d := by
  simp [of?, d.exists_day]

/-! ## Order -/

/-- Dates are ordered by year, then month, then day. -/
def order (a b : Date) : Ordering :=
  (compare a.year b.year).then ((compare a.month b.month).then (compare a.day b.day))

theorem order_self (d : Date) : d.order d = .eq := by simp [order]

/-! ## Counting days -/

/-- The days of the months before `month`. -/
def daysBeforeMonth (year : Int) : Nat → Nat
  | 0 => 0
  | 1 => 0
  | month + 1 => daysBeforeMonth year month + daysInMonth year month

/-- The number of the day, counted from the first of January of year one as day one. -/
def dayNumber (d : Date) : Int :=
  let y := d.year - 1
  365 * y + y / 4 - y / 100 + y / 400 + daysBeforeMonth d.year d.month + d.day

/-- The days since the last Monday. -/
def weekday (d : Date) : Nat := ((d.dayNumber - 1) % 7).toNat

/-- The day before, if there is one. -/
def pred? (d : Date) : Option Date :=
  if 1 < d.day then of? d.year d.month (d.day - 1)
  else if 1 < d.month then of? d.year (d.month - 1) (daysInMonth d.year (d.month - 1))
  else of? (d.year - 1) 12 31

/-- The day before.  None comes before the first date of all, where counting back has no result and
a program that does it stops; the first date stands in for the missing one here, and means nothing. -/
def pred (d : Date) : Date := d.pred?.getD d

/-- The date some days earlier, if the calendar reaches back to it (see `pred`). -/
def back (d : Date) : Nat → Date
  | 0 => d
  | n + 1 => d.pred.back n

end Date

end Crosstab
