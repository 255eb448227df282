import Crosstab.Calendar.Grain
import Crosstab.Proofs.Calendar.DayNumber

/-!
# The first day of a bucket

A grain says on which days its buckets start (`TimeGrain.Starts`), and the bucket of a date is named
by the greatest of these days that is not after the date (`TimeGrain.truncate_isGreatest`).  This
fixes truncation.  That it is idempotent and monotone, which dates share a bucket and which buckets
lie in which are all read off it, without another look at the calendar.

Weeks are an exception at the beginning of time: the first date of all is no Monday, and the week of
the days before the first Monday does not begin within the calendar.  So all that is said of weeks is
said of dates whose week begins there (`TimeGrain.Reaches`).
-/

namespace Crosstab

namespace TimeGrain

variable {g h : TimeGrain} {b d e : Date}

/-- Whether a bucket starts on a day: any day, a Monday, the first of a month, of a quarter or of a
year. -/
def Starts : TimeGrain → Date → Prop
  | .day, _ => True
  | .week, b => b.weekday = 0
  | .month, b => b.day = 1
  | .quarter, b => b.day = 1 ∧ b.month % 3 = 1
  | .year, b => b.day = 1 ∧ b.month = 1

/-- Whether the days of the calendar reach back to the start of the bucket; for a week, it is enough
that the date is a week after the first one. -/
def Reaches (g : TimeGrain) (d : Date) : Prop :=
  g = .week → Date.first.dayNumber + 7 ≤ d.dayNumber

theorem Reaches.mono (hd : g.Reaches d) (hle : d ≤ e) : g.Reaches e := fun hweek =>
  (hd hweek).trans (Date.le_iff_dayNumber_le.mp hle)

/-! ## Where truncation leads -/

/-- Every month has a first, so `firstOf` does not fall back to its date. -/
theorem firstOf_parts {month : Nat} (d : Date) (hlow : 1 ≤ month) (hhigh : month ≤ 12) :
    (firstOf d month).year = d.year ∧ (firstOf d month).month = month ∧
      (firstOf d month).day = 1 := by
  obtain ⟨hfirst, hlast, -⟩ := d.bounds
  have hone := Date.daysInMonth_ge d.year month
  obtain ⟨b, hb⟩ := Date.exists_of? hfirst hlast hlow hhigh le_rfl (by omega)
  rw [firstOf, hb]
  exact Date.of?_eq_some hb

/-- The days of a week since its Monday, as far as there are dates. -/
theorem dayNumber_truncate_week (d : Date) :
    (week.truncate d).dayNumber = max Date.first.dayNumber (d.dayNumber - d.weekday) :=
  d.dayNumber_back d.weekday

theorem weekday_cast (d : Date) : (d.weekday : Int) = (d.dayNumber - 1) % 7 := by
  unfold Date.weekday
  omega

theorem starts_truncate (hd : g.Reaches d) : g.Starts (g.truncate d) := by
  obtain ⟨-, -, hlow, hhigh, -⟩ := d.bounds
  cases g with
  | day => trivial
  | week =>
    have hreach := hd rfl
    have hnumber := dayNumber_truncate_week d
    have hweekday := weekday_cast d
    have hmonday := weekday_cast (week.truncate d)
    show (week.truncate d).weekday = 0
    omega
  | month => exact (firstOf_parts d hlow hhigh).2.2
  | quarter =>
    obtain ⟨-, hmonth, hday⟩ :=
      firstOf_parts d (show 1 ≤ (d.month - 1) / 3 * 3 + 1 by omega) (by omega)
    refine ⟨hday, ?_⟩
    show (firstOf d ((d.month - 1) / 3 * 3 + 1)).month % 3 = 1
    omega
  | year =>
    obtain ⟨-, hmonth, hday⟩ := firstOf_parts d le_rfl (show 1 ≤ 12 by decide)
    exact ⟨hday, hmonth⟩

theorem truncate_le (g : TimeGrain) (d : Date) : g.truncate d ≤ d := by
  obtain ⟨-, -, hlow, hhigh, hday, -⟩ := d.bounds
  have hfirst : ∀ {month : Nat}, 1 ≤ month → month ≤ d.month → firstOf d month ≤ d := by
    intro month hone hle
    obtain ⟨hyear, hmonth, hfirst⟩ := firstOf_parts d hone (hle.trans hhigh)
    rw [Date.le_iff]
    omega
  cases g with
  | day => exact le_rfl
  | week =>
    have hnumber := dayNumber_truncate_week d
    have hle := Date.le_iff_dayNumber_le.mp (Date.first_le d)
    rw [Date.le_iff_dayNumber_le]
    omega
  | month => exact hfirst hlow le_rfl
  | quarter => exact hfirst (by omega) (by omega)
  | year => exact hfirst le_rfl hlow

/-- No bucket starts between the start of the bucket of a date and the date. -/
theorem le_truncate (hb : g.Starts b) (hle : b ≤ d) : b ≤ g.truncate d := by
  obtain ⟨-, -, hlow, hhigh, -⟩ := d.bounds
  obtain ⟨-, -, hblow, -⟩ := b.bounds
  -- A first of a month is compared by year and month only.
  have hfirst : ∀ {month : Nat}, 1 ≤ month → month ≤ 12 → b.day = 1 →
      (d.year = b.year → b.month ≤ d.month → b.month ≤ month) → b ≤ firstOf d month := by
    intro month hone htwelve hbday hmonth
    obtain ⟨hyear, hmonth', hday⟩ := firstOf_parts d hone htwelve
    rw [Date.le_iff] at hle ⊢
    omega
  cases g with
  | day => exact hle
  | week =>
    have hmonday : b.weekday = 0 := hb
    have hnumber := dayNumber_truncate_week d
    have hweekday := weekday_cast d
    have hbweekday := weekday_cast b
    rw [Date.le_iff_dayNumber_le] at hle ⊢
    omega
  | month => exact hfirst hlow hhigh hb fun _ hmonth => hmonth
  | quarter =>
    obtain ⟨hbday, hbmonth⟩ := hb
    exact hfirst (by omega) (by omega) hbday fun _ hmonth => by omega
  | year =>
    obtain ⟨hbday, hbmonth⟩ := hb
    exact hfirst le_rfl (by decide) hbday fun _ _ => hbmonth.le

/-- **A date falls into the bucket of the greatest start that is not after it.** -/
theorem truncate_isGreatest (hd : g.Reaches d) :
    IsGreatest {b | g.Starts b ∧ b ≤ d} (g.truncate d) :=
  ⟨⟨starts_truncate hd, g.truncate_le d⟩, fun _ hb => le_truncate hb.1 hb.2⟩

/-- The first date of all is a Thursday, whose week does not start within the calendar. -/
example : Date.first.weekday = 3 := by decide

/-! ## What follows -/

/-- The start of a bucket is in its own bucket. -/
theorem truncate_of_starts (hb : g.Starts b) : g.truncate b = b :=
  le_antisymm (g.truncate_le b) (le_truncate hb le_rfl)

/-- Truncating twice is truncating once. -/
theorem truncate_truncate (hd : g.Reaches d) : g.truncate (g.truncate d) = g.truncate d :=
  truncate_of_starts (starts_truncate hd)

theorem truncate_mono (hd : g.Reaches d) (hle : d ≤ e) : g.truncate d ≤ g.truncate e :=
  le_truncate (starts_truncate hd) ((g.truncate_le d).trans hle)

/-- Two dates share a bucket if none starts after the earlier and not after the later one. -/
theorem truncate_eq_iff (hd : g.Reaches d) (hle : d ≤ e) :
    g.truncate d = g.truncate e ↔ ∀ b, g.Starts b → ¬(d < b ∧ b ≤ e) := by
  have he := starts_truncate (hd.mono hle)
  constructor
  · rintro heq b hb ⟨hlt, hbe⟩
    have hbd : b ≤ d := (le_truncate hb hbe).trans (heq ▸ g.truncate_le d)
    exact absurd hbd (not_le_of_gt hlt)
  · intro hnone
    refine le_antisymm (truncate_mono hd hle) (le_truncate he ?_)
    by_contra hlt
    exact hnone _ he ⟨not_le.mp hlt, g.truncate_le e⟩

/-- Buckets that start only where smaller ones do are made of the smaller ones. -/
theorem truncate_nested (hstarts : ∀ b, h.Starts b → g.Starts b)
    (hd : h.Reaches (g.truncate d)) : h.truncate (g.truncate d) = h.truncate d := by
  have hle := g.truncate_le d
  have hstart := starts_truncate (hd.mono hle)
  refine le_antisymm (truncate_mono hd hle) (le_truncate hstart ?_)
  exact le_truncate (hstarts _ hstart) (h.truncate_le d)

/-- A bucket has a date, and it is its own bucket. -/
theorem bucket_bucket {c : Cell} (hc : ∀ d, c.date? = some d → g.Reaches d) :
    g.bucket (g.bucket c) = g.bucket c := by
  unfold bucket
  cases hdate : c.date? with
  | none => rfl
  | some d =>
    show Cell.date (g.truncate (g.truncate d)) = Cell.date (g.truncate d)
    rw [truncate_truncate (hc d hdate)]

/-- **Buckets are those of the calendar.**  A date falls into the bucket with the greatest start
that is not after it, and the weekdays that weeks start by follow each other day by day.  So
truncation is idempotent and monotone, dates share a bucket if and only if none starts between them,
months make up quarters and years and quarters make up years, and a bucket is its own bucket.  For
weeks all of this is about dates whose week begins within the calendar. -/
theorem truncate_calendar :
    (∀ g d, Reaches g d → IsGreatest {b | g.Starts b ∧ b ≤ d} (g.truncate d)) ∧
    (∀ d e : Date, d.pred? = some e → d.weekday = (e.weekday + 1) % 7) ∧
    (∀ g d, Reaches g d → g.truncate (g.truncate d) = g.truncate d) ∧
    (∀ g d e, Reaches g d → d ≤ e → g.truncate d ≤ g.truncate e ∧
      (g.truncate d = g.truncate e ↔ ∀ b, g.Starts b → ¬(d < b ∧ b ≤ e))) ∧
    (∀ d, quarter.truncate (month.truncate d) = quarter.truncate d ∧
      year.truncate (month.truncate d) = year.truncate d ∧
      year.truncate (quarter.truncate d) = year.truncate d) ∧
    ∀ g (c : Cell), (∀ d, c.date? = some d → Reaches g d) → g.bucket (g.bucket c) = g.bucket c := by
  refine ⟨fun g d => truncate_isGreatest, fun d e => Date.weekday_of_pred?,
    fun g d => truncate_truncate, fun g d e hd hle => ⟨truncate_mono hd hle, truncate_eq_iff hd hle⟩,
    fun d => ?_, fun g c => bucket_bucket⟩
  refine ⟨truncate_nested ?_ nofun, truncate_nested ?_ nofun, truncate_nested ?_ nofun⟩
  · exact fun b hb => hb.1
  · exact fun b hb => hb.1
  · rintro b ⟨hday, hmonth⟩
    exact ⟨hday, by omega⟩

/-- The leap day of 2024 is in the week of the Monday before it, and so is the Sunday that ends that
week in March. -/
theorem truncate_calendar_leap_week :
    IsGreatest {b | week.Starts b ∧ b ≤ ⟨2024, 2, 29, by decide⟩} ⟨2024, 2, 26, by decide⟩ ∧
      ∀ b, week.Starts b → ¬(⟨2024, 2, 29, by decide⟩ < b ∧ b ≤ ⟨2024, 3, 3, by decide⟩) := by
  obtain ⟨hgreatest, -, -, hshared, -⟩ := truncate_calendar
  have hreach : week.Reaches ⟨2024, 2, 29, by decide⟩ := fun _ => by decide
  have hleap : week.truncate ⟨2024, 2, 29, by decide⟩ = ⟨2024, 2, 26, by decide⟩ := by decide
  have hsunday : week.truncate ⟨2024, 3, 3, by decide⟩ = ⟨2024, 2, 26, by decide⟩ := by decide
  have hle : (⟨2024, 2, 29, by decide⟩ : Date) ≤ ⟨2024, 3, 3, by decide⟩ := by decide
  constructor
  · rw [← hleap]
    exact hgreatest week _ hreach
  · exact (hshared week _ _ hreach hle).2.mp (hleap.trans hsunday.symm)

end TimeGrain

end Crosstab
