import Crosstab.Proofs.Calendar.Order
import Mathlib.Order.Bounds.Basic

/-!
# Days one after another

A date is a year, a month and a day, and its number counts days.  That both tell the same story is
a matter of the lengths of months and years: the days of a month end where those of the next month
begin (`daysBeforeMonth_add_le`), and so do years (`daysBeforeYear_add_le`).

* `Date.order_eq_compare_dayNumber`: dates are ordered as their numbers are;
* `Date.dayNumber_pred?`: the day before has the number before, so that weekdays follow each other
  without a gap (`Date.weekday_of_pred?`), at the end of a month or a year as within one;
* `Date.dayNumber_back`: going back goes back in numbers, as far as there are dates.
-/

namespace Crosstab

namespace Date

/-! ## Months and years -/

/-- The days of the years before `year`, counted from year one. -/
def daysBeforeYear (year : Int) : Int :=
  365 * (year - 1) + (year - 1) / 4 - (year - 1) / 100 + (year - 1) / 400

/-- The days of a year. -/
def daysInYear (year : Int) : Nat := if isLeapYear year then 366 else 365

theorem isLeapYear_iff {year : Int} :
    isLeapYear year = true ↔ year % 4 = 0 ∧ (year % 100 ≠ 0 ∨ year % 400 = 0) := by
  simp [isLeapYear]

theorem daysBeforeYear_succ (year : Int) :
    daysBeforeYear (year + 1) = daysBeforeYear year + daysInYear year := by
  unfold daysBeforeYear daysInYear
  rw [add_sub_cancel_right]
  split
  · next h =>
    have := isLeapYear_iff.mp h
    omega
  · next h =>
    have := mt isLeapYear_iff.mpr h
    omega

/-- A year ends before the next ones begin. -/
theorem daysBeforeYear_add_le {year later : Int} (h : year < later) :
    daysBeforeYear year + daysInYear year ≤ daysBeforeYear later := by
  rw [← daysBeforeYear_succ]
  unfold daysBeforeYear
  rw [add_sub_cancel_right]
  omega

theorem daysBeforeMonth_succ (year : Int) {month : Nat} (h : 1 ≤ month) :
    daysBeforeMonth year (month + 1) = daysBeforeMonth year month + daysInMonth year month := by
  cases month with
  | zero => cases h
  | succ m => rfl

/-- A month ends before the next ones begin. -/
theorem daysBeforeMonth_add_le (year : Int) {month later : Nat} (h : 1 ≤ month)
    (hlt : month < later) :
    daysBeforeMonth year month + daysInMonth year month ≤ daysBeforeMonth year later := by
  induction hlt with
  | refl => rw [daysBeforeMonth_succ year h]
  | @step m hm ih =>
    rw [daysBeforeMonth_succ year (Nat.le_trans h (Nat.le_of_lt hm))]
    omega

/-- The months make up the year. -/
theorem daysBeforeMonth_end (year : Int) :
    daysBeforeMonth year 12 + daysInMonth year 12 = daysInYear year := by
  unfold daysInYear
  cases hleap : isLeapYear year with
  | false => simp [daysBeforeMonth, daysInMonth, hleap]
  | true => simp [daysBeforeMonth, daysInMonth, hleap]

variable {d e : Date}

theorem bounds (d : Date) : firstYear ≤ d.year ∧ d.year ≤ lastYear ∧ 1 ≤ d.month ∧ d.month ≤ 12 ∧
    1 ≤ d.day ∧ d.day ≤ daysInMonth d.year d.month := by
  have h := d.exists_day
  simp only [isCalendarDay, Bool.and_eq_true, decide_eq_true_eq] at h
  obtain ⟨⟨⟨⟨⟨hfirst, hlast⟩, hlow⟩, hhigh⟩, hday⟩, hend⟩ := h
  exact ⟨hfirst, hlast, hlow, hhigh, hday, hend⟩

theorem dayNumber_eq (d : Date) :
    d.dayNumber = daysBeforeYear d.year + daysBeforeMonth d.year d.month + d.day := rfl

/-- A date is within its year. -/
theorem dayOfYear_le (d : Date) : daysBeforeMonth d.year d.month + d.day ≤ daysInYear d.year := by
  obtain ⟨-, -, hlow, hhigh, -, hday⟩ := d.bounds
  have hend := daysBeforeMonth_end d.year
  rcases Nat.lt_or_eq_of_le hhigh with hlt | heq
  · have := daysBeforeMonth_add_le d.year hlow hlt
    omega
  · rw [heq] at hday ⊢
    omega

/-! ## The order of dates -/

theorem order_eq_lt_iff : d.order e = .lt ↔ d.year < e.year ∨
    (d.year = e.year ∧ (d.month < e.month ∨ (d.month = e.month ∧ d.day < e.day))) := by
  simp only [order, Ordering.then_eq_lt, compare_lt_iff_lt, compare_eq_iff_eq]

/-- A later date has a larger number. -/
theorem dayNumber_lt_of_order (h : d.order e = .lt) : d.dayNumber < e.dayNumber := by
  obtain ⟨-, -, hmonth, -, -, hday⟩ := d.bounds
  obtain ⟨-, -, -, -, hpos, -⟩ := e.bounds
  rw [dayNumber_eq, dayNumber_eq]
  rcases order_eq_lt_iff.mp h with hyear | ⟨hyear, hlt | ⟨heq, hlt⟩⟩
  · have := d.dayOfYear_le
    have := daysBeforeYear_add_le hyear
    omega
  · have := daysBeforeMonth_add_le d.year hmonth hlt
    rw [← hyear]
    omega
  · rw [← hyear, ← heq]
    omega

/-- **Dates are ordered as their numbers are.** -/
theorem order_eq_compare_dayNumber (d e : Date) :
    d.order e = compare d.dayNumber e.dayNumber := by
  cases h : d.order e with
  | lt => exact (compare_lt_iff_lt.mpr (dayNumber_lt_of_order h)).symm
  | eq => rw [Std.LawfulEqCmp.eq_of_compare h, compare_eq_iff_eq.mpr rfl]
  | gt =>
    have hswap : e.order d = .lt := Std.OrientedCmp.gt_iff_lt.mp h
    exact (compare_gt_iff_gt.mpr (dayNumber_lt_of_order hswap)).symm

instance : LinearOrder Date where
  le d e := (d.order e).isLE = true
  le_refl d := by rw [order_self]; rfl
  le_trans _ _ _ := Std.TransCmp.isLE_trans
  le_antisymm d e hle hge := Std.LawfulEqCmp.eq_of_compare (Std.OrientedCmp.isLE_antisymm hle hge)
  le_total d e := by
    simp only [order_eq_compare_dayNumber, Ordering.isLE_iff_ne_gt, compare_le_iff_le]
    exact le_total _ _
  toDecidableLE _ _ := inferInstanceAs (Decidable (_ = true))

theorem le_iff_order : d ≤ e ↔ (d.order e).isLE = true := Iff.rfl

theorem le_iff_dayNumber_le : d ≤ e ↔ d.dayNumber ≤ e.dayNumber := by
  rw [le_iff_order, order_eq_compare_dayNumber, Ordering.isLE_iff_ne_gt]
  exact compare_le_iff_le

theorem le_iff : d ≤ e ↔ d.year < e.year ∨
    (d.year = e.year ∧ (d.month < e.month ∨ (d.month = e.month ∧ d.day ≤ e.day))) := by
  have hswap : e.order d = .lt ↔ ¬d ≤ e := by
    rw [le_iff_order, ← Std.OrientedCmp.gt_iff_lt, Ordering.isLE_iff_ne_gt, not_not]
  have hnot := not_congr (hswap.symm.trans order_eq_lt_iff)
  rw [not_not] at hnot
  rw [hnot]
  omega

/-! ## The day before -/

/-- The first date of all. -/
def first : Date := ⟨firstYear, 1, 1, by decide⟩

theorem first_le (d : Date) : first ≤ d := by
  obtain ⟨hyear, -, hmonth, -, hday, -⟩ := d.bounds
  rw [le_iff]
  show firstYear < d.year ∨ (firstYear = d.year ∧ (1 < d.month ∨ (1 = d.month ∧ 1 ≤ d.day)))
  omega

theorem of?_eq_some {year : Int} {month day : Nat} (h : of? year month day = some d) :
    d.year = year ∧ d.month = month ∧ d.day = day := by
  unfold of? at h
  split at h
  · cases h
    exact ⟨rfl, rfl, rfl⟩
  · cases h

theorem exists_of? {year : Int} {month day : Nat} (hfirst : firstYear ≤ year)
    (hlast : year ≤ lastYear) (hlow : 1 ≤ month) (hhigh : month ≤ 12) (hday : 1 ≤ day)
    (hend : day ≤ daysInMonth year month) : ∃ d, of? year month day = some d := by
  have h : isCalendarDay year month day = true := by
    simp only [isCalendarDay, Bool.and_eq_true, decide_eq_true_eq]
    exact ⟨⟨⟨⟨⟨hfirst, hlast⟩, hlow⟩, hhigh⟩, hday⟩, hend⟩
  exact ⟨⟨year, month, day, h⟩, dif_pos h⟩

theorem daysInMonth_ge (year : Int) (month : Nat) : 28 ≤ daysInMonth year month := by
  unfold daysInMonth
  split
  · split <;> decide
  · split <;> decide

/-- Every date but the first has a day before. -/
theorem exists_pred? (h : d ≠ first) : ∃ e, d.pred? = some e := by
  obtain ⟨hfirst, hlast, hlow, hhigh, hday, hend⟩ := d.bounds
  unfold pred?
  split
  · exact exists_of? hfirst hlast hlow hhigh (by omega) (by omega)
  · split
    · have := daysInMonth_ge d.year (d.month - 1)
      exact exists_of? hfirst hlast (by omega) (by omega) (by omega) le_rfl
    · have hyear : firstYear < d.year := by
        refine lt_of_le_of_ne hfirst fun heq => h ?_
        have hmonth : d.month = 1 := by omega
        have hone : d.day = 1 := by omega
        exact le_antisymm (le_iff.mpr (.inr ⟨heq.symm, .inr ⟨hmonth, hone.le⟩⟩)) (first_le d)
      exact exists_of? (by omega) (by omega) (by decide) (by decide) (by decide) le_rfl

/-- **The day before has the number before.** -/
theorem dayNumber_pred? (h : d.pred? = some e) : d.dayNumber = e.dayNumber + 1 := by
  obtain ⟨-, -, hlow, -, hday, -⟩ := d.bounds
  rw [dayNumber_eq, dayNumber_eq]
  unfold pred? at h
  split at h
  · obtain ⟨hy, hm, hd⟩ := of?_eq_some h
    rw [hy, hm, hd]
    omega
  · split at h
    · obtain ⟨hy, hm, hd⟩ := of?_eq_some h
      have hsucc := daysBeforeMonth_succ d.year (show 1 ≤ d.month - 1 by omega)
      rw [Nat.sub_add_cancel hlow] at hsucc
      rw [hy, hm, hd]
      omega
    · obtain ⟨hy, hm, hd⟩ := of?_eq_some h
      have hyear := daysBeforeYear_succ (d.year - 1)
      have hend := daysBeforeMonth_end (d.year - 1)
      have hmonth : d.month = 1 := by omega
      have hdecember : daysInMonth (d.year - 1) 12 = 31 := rfl
      rw [sub_add_cancel] at hyear
      rw [hy, hm, hd, hmonth, daysBeforeMonth]
      omega

/-- Weekdays follow each other. -/
theorem weekday_of_pred? (h : d.pred? = some e) : d.weekday = (e.weekday + 1) % 7 := by
  have := dayNumber_pred? h
  unfold weekday
  omega

theorem dayNumber_pred (d : Date) : d.pred.dayNumber = max first.dayNumber (d.dayNumber - 1) := by
  have hfirst := le_iff_dayNumber_le.mp (first_le d)
  by_cases h : d = first
  · have hnone : first.pred? = none := by decide
    rw [h, pred, hnone, Option.getD_none]
    omega
  · obtain ⟨e, he⟩ := exists_pred? h
    have hpred := dayNumber_pred? he
    have hle := le_iff_dayNumber_le.mp (first_le e)
    rw [pred, he, Option.getD_some]
    omega

/-- Going back goes back in numbers, as far as there are dates. -/
theorem dayNumber_back (d : Date) (n : Nat) :
    (d.back n).dayNumber = max first.dayNumber (d.dayNumber - n) := by
  have hfirst := le_iff_dayNumber_le.mp (first_le d)
  induction n generalizing d with
  | zero =>
    rw [back]
    omega
  | succ n ih =>
    rw [back, ih d.pred (le_iff_dayNumber_le.mp (first_le _)), dayNumber_pred]
    omega

end Date

end Crosstab
