import Crosstab.Proofs.Cell.Order

/-!
# Days and moments

Dates and timestamps are linearly ordered, and a date has the place of its midnight among
timestamps.  A moment is before a midnight if and only if its day is before that day
(`Timestamp.order_ofDate_eq_lt_iff`), but on the same day it may be after the midnight.

No text reads both as a date and as a timestamp (`Calendar.timestampOf?_of_dateOf?`), so a text has
one reading, and the day that it reads as is that of the moment that it reads as
(`Cell.date?_text`).
-/

namespace Crosstab

/-! ## The order of days and moments -/

theorem Date.order_eq_compareOn : Date.order = compareOn Cell.dateParts := by
  funext d e
  have hparts := Cell.compareLex_dateParts d e [] []
  rw [List.append_nil, List.append_nil, List.compareLex_nil_nil, Ordering.then_eq] at hparts
  rw [compareOn, List.compare_eq_compareLex, hparts]

instance : Std.TransCmp Date.order := Date.order_eq_compareOn ▸ inferInstance

instance : Std.LawfulEqCmp Date.order where
  eq_of_compare := by
    intro d e h
    rw [Date.order_eq_compareOn] at h
    exact Cell.dateParts_inj (Std.LawfulEqCmp.eq_of_compare h)

theorem Timestamp.order_eq_compareOn :
    Timestamp.order = compareOn fun t => Cell.dateParts t.date ++ Cell.timeParts t.time := by
  funext t u
  rw [compareOn, List.compare_eq_compareLex, Cell.compareLex_dateParts, Cell.compareLex_timeParts]
  rfl

instance : Std.TransCmp Timestamp.order := Timestamp.order_eq_compareOn ▸ inferInstance

/-- No time is before midnight. -/
theorem TimeOfDay.order_midnight_ne_lt (t : TimeOfDay) : t.order midnight ≠ .lt := by
  have hfirst : ∀ {n : Nat} (i : Fin (n + 1)), compare i 0 ≠ .lt := by
    intro n i hlt
    exact absurd (Nat.compare_eq_lt.mp hlt) (Nat.not_lt_zero i.val)
  have hthen : ∀ {o p : Ordering}, o ≠ .lt → p ≠ .lt → o.then p ≠ .lt := by
    intro o p ho hp
    cases o
    · exact absurd rfl ho
    · exact hp
    · exact nofun
  exact hthen (hfirst t.hour) (hthen (hfirst t.minute) (hthen (hfirst t.second)
    (hfirst t.nanosecond)))

namespace Timestamp

/-- Midnights are ordered as their days are. -/
theorem order_ofDate_ofDate (d e : Date) : (ofDate d).order (ofDate e) = d.order e := by
  rw [order, ofDate, ofDate, TimeOfDay.order_self, Ordering.then_eq]

/-- What is before a midnight is on a day before. -/
theorem order_ofDate_eq_lt_iff {t : Timestamp} {d : Date} :
    t.order (ofDate d) = .lt ↔ t.date.order d = .lt := by
  have htime := t.time.order_midnight_ne_lt
  unfold order ofDate
  cases t.date.order d with
  | lt => exact Iff.rfl
  | eq => exact iff_of_false htime nofun
  | gt => exact Iff.rfl

/-- What is on a day after is after the midnight. -/
theorem order_ofDate_of_gt {t : Timestamp} {d : Date} (h : t.date.order d = .gt) :
    t.order (ofDate d) = .gt := by
  unfold order ofDate
  rw [h]
  rfl

end Timestamp

/-! ## Texts that are read -/

namespace Calendar

/-- A pattern whose beginning reads a whole text has nothing left to read. -/
theorem readParts_append {ps : List Part} {r r' : Reading} {cs : List Char}
    (h : readParts ps r cs = some r') (more : List Part) :
    readParts (ps ++ more) r cs = readParts more r' [] := by
  induction ps generalizing r cs with
  | nil =>
    cases cs with
    | nil =>
      obtain rfl : r = r' := Option.some.inj h
      rfl
    | cons c cs => exact absurd h nofun
  | cons p ps ih =>
    simp only [List.cons_append, readParts] at h ⊢
    split at h
    · exact ih h
    · exact absurd h nofun

/-- Every pattern of a timestamp goes on after the date. -/
theorem timestampOfChars?_of_readParts {r : Reading} {cs : List Char}
    (h : readParts datePattern .start cs = some r) : timestampOfChars? cs = none := by
  have hmark : readParts (datePattern ++ .mark 'T' :: clockPattern) .start cs = none := by
    rw [readParts_append h]
    rfl
  have hblank : readParts (datePattern ++ .blank :: clockPattern) .start cs = none := by
    rw [readParts_append h]
    rfl
  have hminute : readParts (datePattern ++ [.mark 'T', .hour, .mark ':', .minute]) .start cs =
      none := by
    rw [readParts_append h]
    rfl
  simp [timestampOfChars?, timestampPatterns, hmark, hblank, hminute]

/-- A text that reads as a date does not read as a timestamp. -/
theorem timestampOf?_of_dateOf? {s : String} {d : Date} (h : dateOf? s = some d) :
    timestampOf? s = none := by
  rw [dateOf?, dateOfChars?] at h
  obtain ⟨r, hr, -⟩ := Option.bind_eq_some_iff.mp h
  exact timestampOfChars?_of_readParts hr

end Calendar

/-- The day that a text reads as is that of the moment that it reads as. -/
theorem Cell.date?_text (s : String) :
    (text s).date? = (text s).timestamp?.map (·.date) := by
  show (Calendar.dateOf? s).or ((Calendar.timestampOf? s).map (·.date)) =
    ((Calendar.timestampOf? s).or ((Calendar.dateOf? s).map .ofDate)).map (·.date)
  cases hdate : Calendar.dateOf? s with
  | none => simp
  | some d =>
    rw [Calendar.timestampOf?_of_dateOf? hdate]
    rfl

end Crosstab
