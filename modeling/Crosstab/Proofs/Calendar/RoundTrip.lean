import Crosstab.Calendar.Written
import Crosstab.Proofs.Text.Digits

/-!
# Dates and timestamps read back

Reading is more liberal than writing, so what is to be shown is that no liberty gets in the way: a
written number is read to its end and no further (`number_append`), and the first pattern that fits
a written text is the one that it was written by.

* `dateOf?_dateText`: the text of a date reads as the date, for every year that has dates;
* `timestampOf?_timestampText`: so does the text of a timestamp, with its nanosecond.

The text for display, which has no fraction, reads as the start of the second of the timestamp
(`timestampOfChars?_timestampDisplay`).
-/

namespace Crosstab

/-- The start of the second. -/
def Timestamp.startOfSecond (t : Timestamp) : Timestamp :=
  ⟨t.date, { t.time with nanosecond := TimeOfDay.midnight.nanosecond }⟩

namespace Calendar

open Crosstab.Text

/-! ## Padded numbers -/

theorem allDigits_padded (width n : Nat) : AllDigits (padded width n) :=
  allDigits_append (allDigits_zeros _) (allDigits_toDigits n)

theorem digitsValue_padded (width n : Nat) : Binary64.digitsValue (padded width n) = n := by
  rw [padded, digitsValue_zeros_append, digitsValue_toDigits]

theorem padded_ne_nil (width n : Nat) : padded width n ≠ [] := by
  simp [padded, Nat.toDigits_ne_nil]

theorem length_padded {width n : Nat} (hw : 0 < width) (hn : n < 10 ^ width) :
    (padded width n).length = width := by
  have hlen := (Nat.length_toDigits_le_iff (b := 10) (by decide) hw).mpr hn
  rw [padded, List.length_append, List.length_replicate]
  omega

/-! ## Numbers -/

/-- A number is read to its end where no digit can follow it. -/
theorem number_append {width : Nat} {ds rest : List Char} (hds : AllDigits ds) (hne : ds ≠ [])
    (hlen : ds.length ≤ width) (hrest : ds.length = width ∨ NoDigitAhead rest) :
    number width (ds ++ rest) = some (Binary64.digitsValue ds, rest) := by
  have htake : ((ds ++ rest).take width).takeWhile Char.isDigit = ds := by
    rw [List.take_append, List.take_of_length_le hlen]
    refine takeWhile_isDigit_append hds ?_
    rcases hrest with hrest | hrest
    · rw [hrest, Nat.sub_self]
      exact noDigitAhead_nil
    · exact hrest.take _
  unfold number
  rw [htake]
  split
  · exact absurd rfl hne
  · rw [List.drop_left]
    rfl

theorem dropBlanks_padded (width n : Nat) (rest : List Char) :
    dropBlanks (padded width n ++ rest) = padded width n ++ rest := by
  cases h : padded width n with
  | nil => exact absurd h (padded_ne_nil width n)
  | cons c cs =>
    have hc : c.isDigit = true := allDigits_padded width n c (by simp [h])
    rw [dropBlanks, List.cons_append, List.dropWhile_cons, isBlank_of_isDigit hc]
    rfl

/-- A month, a day, an hour, a minute or a second is read as it was written. -/
theorem field_padded {n : Nat} (hn : n < 100) (rest : List Char) :
    field (padded 2 n ++ rest) = some (n, rest) := by
  have hlen : (padded 2 n).length = 2 := length_padded (by decide) hn
  rw [field, dropBlanks_padded,
    number_append (allDigits_padded 2 n) (padded_ne_nil 2 n) (Nat.le_of_eq hlen) (.inl hlen),
    digitsValue_padded]

theorem yearField_minus (rest : List Char) :
    yearField ('-' :: rest) =
      (number rest.length rest).map fun x => (-(x.1 : Int), x.2) := rfl

theorem yearField_plus (rest : List Char) :
    yearField ('+' :: rest) =
      (number rest.length rest).map fun x => ((x.1 : Int), x.2) := rfl

theorem yearField_of_isDigit {c : Char} (hc : c.isDigit = true) (rest : List Char) :
    yearField (c :: rest) = (number 4 (c :: rest)).map fun x => ((x.1 : Int), x.2) := by
  have hdrop : dropBlanks (c :: rest) = c :: rest := by
    rw [dropBlanks, List.dropWhile_cons, isBlank_of_isDigit hc]
    rfl
  unfold yearField
  rw [hdrop]
  split
  · next heq =>
    obtain ⟨rfl, rfl⟩ := List.cons.inj heq
    simp [Char.isDigit] at hc
  · next heq =>
    obtain ⟨rfl, rfl⟩ := List.cons.inj heq
    simp [Char.isDigit] at hc
  · rfl

/-- The digits of a year after its sign. -/
theorem number_signed (n : Nat) {rest : List Char} (hrest : NoDigitAhead rest) :
    number (padded 4 n ++ rest).length (padded 4 n ++ rest) = some (n, rest) := by
  have hlen : (padded 4 n).length ≤ (padded 4 n ++ rest).length := by simp
  rw [number_append (allDigits_padded 4 n) (padded_ne_nil 4 n) hlen (.inr hrest),
    digitsValue_padded]

/-- A year is read as it was written, with four digits or with a sign. -/
theorem yearField_yearChars (year : Int) {rest : List Char} (hrest : NoDigitAhead rest) :
    yearField (yearChars year ++ rest) = some (year, rest) := by
  unfold yearChars
  split
  · next h =>
    have hlen : (padded 4 year.toNat).length = 4 := length_padded (by decide) (by omega)
    have hread : number 4 (padded 4 year.toNat ++ rest) = some (year.toNat, rest) := by
      rw [number_append (allDigits_padded 4 _) (padded_ne_nil 4 _) (Nat.le_of_eq hlen) (.inl hlen),
        digitsValue_padded]
    cases hcs : padded 4 year.toNat with
    | nil => exact absurd hcs (padded_ne_nil 4 _)
    | cons c cs =>
      have hc : c.isDigit = true := allDigits_padded 4 year.toNat c (by simp [hcs])
      rw [hcs, List.cons_append] at hread
      rw [List.cons_append, yearField_of_isDigit hc, hread]
      simp [Int.toNat_of_nonneg h.1]
  · next h =>
    split
    · next hneg =>
      rw [List.cons_append, yearField_minus, number_signed _ hrest]
      simp only [Option.map_some, Option.some.injEq, Prod.mk.injEq, and_true]
      omega
    · next hneg =>
      rw [List.cons_append, yearField_plus, number_signed _ hrest]
      simp only [Option.map_some, Option.some.injEq, Prod.mk.injEq, and_true]
      omega

/-! ## Fractions -/

theorem fractionField_point (rest : List Char) {n : Nat} {after : List Char}
    (h : number 9 rest = some (n, after)) :
    fractionField ('.' :: rest) =
      some (n * 10 ^ (9 - (rest.length - after.length)), after.dropWhile Char.isDigit) := by
  simp only [fractionField, h]
  rfl

/-- A fraction that is written with some digits, which is so many nanoseconds. -/
theorem fractionField_padded {width n : Nat} (hw : 0 < width) (hw9 : width ≤ 9)
    (hn : n < 10 ^ width) :
    fractionField ('.' :: padded width n) = some (n * 10 ^ (9 - width), []) := by
  have hlen := length_padded hw hn
  have hread : number 9 (padded width n) = some (n, []) := by
    have h := number_append (allDigits_padded width n) (padded_ne_nil width n)
      (by omega : (padded width n).length ≤ 9) (.inr noDigitAhead_nil)
    rwa [List.append_nil, digitsValue_padded] at h
  rw [fractionField_point _ hread, hlen]
  rfl

theorem fractionField_fractionChars {n : Nat} (hn : n < 1000000000) :
    fractionField (fractionChars n) = some (n, []) := by
  unfold fractionChars
  split
  · next h => rw [h]; rfl
  · split
    · next h =>
      rw [fractionField_padded (by decide) (by decide) (by omega)]
      simp only [Option.some.injEq, Prod.mk.injEq, and_true]
      omega
    · split
      · next h =>
        rw [fractionField_padded (by decide) (by decide) (by omega)]
        simp only [Option.some.injEq, Prod.mk.injEq, and_true]
        omega
      · rw [fractionField_padded (by decide) (by decide) (by omega)]
        simp

/-! ## Parts in a row -/

/-- The reading of the date of a text. -/
def Reading.ofDate (r : Reading) (d : Date) : Reading :=
  { r with year := d.year, month := d.month, day := d.day }

theorem month_lt (d : Date) : d.month < 100 := by
  have h := d.exists_day
  simp only [isCalendarDay, Bool.and_eq_true, decide_eq_true_eq] at h
  omega

theorem daysInMonth_le (year : Int) (month : Nat) : daysInMonth year month ≤ 31 := by
  unfold daysInMonth
  split
  · split <;> decide
  · split <;> decide

theorem day_lt (d : Date) : d.day < 100 := by
  have h := d.exists_day
  simp only [isCalendarDay, Bool.and_eq_true, decide_eq_true_eq] at h
  have := daysInMonth_le d.year d.month
  omega

theorem readParts_date (d : Date) (ps : List Part) (r : Reading) (rest : List Char) :
    readParts (datePattern ++ ps) r (dateChars d ++ rest) = readParts ps (r.ofDate d) rest := by
  simp [datePattern, dateChars, readParts, Part.read, yearField_yearChars, noDigitAhead_cons,
    field_padded (month_lt d), field_padded (day_lt d), Reading.ofDate]

theorem readParts_clock (t : TimeOfDay) (r : Reading) :
    readParts clockPattern r (clockChars t ++ fractionChars t.nanosecond.val) =
      some { r with hour := t.hour.val, minute := t.minute.val, second := t.second.val,
                    nanosecond := t.nanosecond.val } := by
  have hhour : t.hour.val < 100 := by omega
  have hminute : t.minute.val < 100 := by omega
  have hsecond : t.second.val < 100 := by omega
  simp [clockPattern, clockChars, readParts, Part.read, field_padded hhour, field_padded hminute,
    field_padded hsecond, fractionField_fractionChars t.nanosecond.isLt]

theorem dateOfChars?_dateChars (d : Date) : dateOfChars? (dateChars d) = some d := by
  have hread := readParts_date d [] Reading.start []
  rw [List.append_nil, List.append_nil] at hread
  rw [dateOfChars?, hread]
  exact Date.of?_self d

theorem timestampOfChars?_timestampChars (t : Timestamp) :
    timestampOfChars? (timestampChars t) = some t := by
  have hread : readParts (datePattern ++ .mark 'T' :: clockPattern) Reading.start
      (timestampChars t) = some ⟨t.date.year, t.date.month, t.date.day, t.time.hour.val,
        t.time.minute.val, t.time.second.val, t.time.nanosecond.val⟩ := by
    rw [timestampChars, List.append_assoc, readParts_date, List.cons_append]
    simp only [readParts, Part.read, if_true]
    exact readParts_clock t.time _
  rw [timestampOfChars?, timestampPatterns, List.findSome?_cons, hread]
  simp [Reading.timestamp?, Reading.date?, Date.of?_self, TimeOfDay.of?]

theorem dropBlanks_clockChars (t : TimeOfDay) :
    dropBlanks (' ' :: clockChars t) = clockChars t := by
  have hspace : dropBlanks (' ' :: clockChars t) = dropBlanks (clockChars t) := rfl
  rw [hspace, clockChars, List.append_assoc, dropBlanks_padded]

/-- The text for display reads as the start of the second. -/
theorem timestampOfChars?_timestampDisplay (t : Timestamp) :
    timestampOfChars? (timestampDisplay t).toList = some t.startOfSecond := by
  have hclock := readParts_clock t.startOfSecond.time (Reading.start.ofDate t.date)
  rw [show fractionChars t.startOfSecond.time.nanosecond.val = [] from rfl, List.append_nil]
    at hclock
  have hmark : readParts (datePattern ++ .mark 'T' :: clockPattern) Reading.start
      (dateChars t.date ++ ' ' :: clockChars t.time) = none := by
    rw [readParts_date]
    rfl
  have hblank : readParts (datePattern ++ .blank :: clockPattern) Reading.start
      (dateChars t.date ++ ' ' :: clockChars t.time) = some ⟨t.date.year, t.date.month, t.date.day,
        t.time.hour.val, t.time.minute.val, t.time.second.val, 0⟩ := by
    rw [readParts_date, readParts, Part.read, dropBlanks_clockChars]
    exact hclock
  rw [timestampDisplay, String.toList_ofList, timestampOfChars?, timestampPatterns,
    List.findSome?_cons, hmark, Option.bind_none, List.findSome?_cons, hblank]
  simp [Reading.timestamp?, Reading.date?, Date.of?_self, TimeOfDay.of?, Timestamp.startOfSecond,
    TimeOfDay.midnight]

/-- Timestamps are displayed alike if and only if they are within one second. -/
theorem timestampDisplay_eq_iff {t u : Timestamp} :
    timestampDisplay t = timestampDisplay u ↔ t.startOfSecond = u.startOfSecond := by
  constructor
  · intro h
    have hread := timestampOfChars?_timestampDisplay t
    rw [h, timestampOfChars?_timestampDisplay] at hread
    exact (Option.some.inj hread).symm
  · intro h
    have hstart : ∀ v : Timestamp, timestampDisplay v.startOfSecond = timestampDisplay v :=
      fun _ => rfl
    rw [← hstart t, h, hstart]

/-! ## White space around a text -/

theorem trim_of_noBlanks {cs : List Char} (h : ∀ c ∈ cs, isBlank c = false) :
    (trim (String.ofList cs)).toList = cs := by
  have hdrop : ∀ {ds : List Char}, (∀ c ∈ ds, isBlank c = false) → ds.dropWhile isBlank = ds := by
    intro ds hds
    cases ds with
    | nil => rfl
    | cons d ds => rw [List.dropWhile_cons, hds d (by simp)]; rfl
  have hreverse : ∀ c ∈ cs.reverse, isBlank c = false := fun c hc => h c (List.mem_reverse.mp hc)
  rw [trim, String.toList_ofList, String.toList_ofList, dropBlanks, hdrop h, dropTrailingBlanks,
    hdrop hreverse, List.reverse_reverse]

theorem isBlank_of_mem_padded {width n : Nat} {c : Char} (h : c ∈ padded width n) :
    isBlank c = false :=
  isBlank_of_isDigit (allDigits_padded width n c h)

theorem isBlank_of_mem_yearChars {year : Int} {c : Char} (h : c ∈ yearChars year) :
    isBlank c = false := by
  unfold yearChars at h
  split at h
  · exact isBlank_of_mem_padded h
  · rcases List.mem_cons.mp h with rfl | h
    · split <;> decide
    · exact isBlank_of_mem_padded h

theorem isBlank_of_mem_dateChars {d : Date} {c : Char} (h : c ∈ dateChars d) :
    isBlank c = false := by
  simp only [dateChars, List.mem_append, List.mem_cons] at h
  rcases h with (h | rfl | h) | rfl | h
  · exact isBlank_of_mem_yearChars h
  · decide
  · exact isBlank_of_mem_padded h
  · decide
  · exact isBlank_of_mem_padded h

theorem isBlank_of_mem_fractionChars {n : Nat} {c : Char} (h : c ∈ fractionChars n) :
    isBlank c = false := by
  have hpoint : ∀ {width m : Nat}, c ∈ '.' :: padded width m → isBlank c = false := by
    intro width m hmem
    rcases List.mem_cons.mp hmem with rfl | hmem
    · decide
    · exact isBlank_of_mem_padded hmem
  unfold fractionChars at h
  split at h
  · simp at h
  · split at h
    · exact hpoint h
    · split at h
      · exact hpoint h
      · exact hpoint h

theorem isBlank_of_mem_timestampChars {t : Timestamp} {c : Char} (h : c ∈ timestampChars t) :
    isBlank c = false := by
  simp only [timestampChars, clockChars, List.mem_append, List.mem_cons] at h
  rcases h with (h | rfl | (h | rfl | h) | rfl | h) | h
  · exact isBlank_of_mem_dateChars h
  · decide
  · exact isBlank_of_mem_padded h
  · decide
  · exact isBlank_of_mem_padded h
  · decide
  · exact isBlank_of_mem_padded h
  · exact isBlank_of_mem_fractionChars h

/-! ## Whole texts -/

/-- **The text of a date reads as the date.** -/
theorem dateOf?_dateText (d : Date) : dateOf? (dateText d) = some d := by
  rw [dateOf?, dateText, trim_of_noBlanks fun _ => isBlank_of_mem_dateChars,
    dateOfChars?_dateChars]

/-- **The text of a timestamp reads as the timestamp.** -/
theorem timestampOf?_timestampText (t : Timestamp) :
    timestampOf? (timestampText t) = some t := by
  rw [timestampOf?, timestampText, trim_of_noBlanks fun _ => isBlank_of_mem_timestampChars,
    timestampOfChars?_timestampChars]

end Calendar

end Crosstab
