import Crosstab.Proofs.Cell.Compared

/-!
# Where the order of rows is not transitive

The order of rows puts nulls last and is the same from either side, but it is not transitive: beside
a cell of another kind two cells may stand in an order that they do not have among themselves.
`Torn a b c` lists the triples of which the first is not after the second, the second not after the
third, and yet the first after the third.  They are of four sorts.

* Whole numbers are compared exactly, but with a float by the float that they round to, and a NaN
  has the place of all of them.
* Floats are compared by a total order that tells the two zeros apart and puts the NaNs at both
  ends, but beside a whole number zero and the NaNs have its place.
* Texts are compared by code points, but beside a date or a timestamp by what they read as.
* A text stands beside a timestamp as a moment, but beside a date as a day, whatever its time.

That these are all (`order_swap_and_torn_iff`) follows stratum by stratum; within the numbers and
within the moments every combination of kinds is looked at once.
-/

namespace Crosstab.Cell

open Binary64

/-- Three cells whose places are torn: each has the place of the next or a place before it, but the
first is after the third. -/
inductive Torn : Cell → Cell → Cell → Prop where
  /-- Different whole numbers about the float that both round to. -/
  | rounded {i j : Int64} {x : Binary64} (hlt : j.toInt < i.toInt) (hx : x.isNaN = false)
      (hi : (ofInt i.toInt).numericKey = x.numericKey)
      (hj : (ofInt j.toInt).numericKey = x.numericKey) : Torn (.int i) (.float x) (.int j)
  /-- Different whole numbers about a NaN. -/
  | wholesAboutNaN {i j : Int64} {x : Binary64} (hlt : j.toInt < i.toInt) (hx : x.isNaN = true) :
      Torn (.int i) (.float x) (.int j)
  /-- The two zeros of the floats about the whole zero. -/
  | zeros : Torn (.float (ofMagnitudeBits false 0)) (.int 0) (.float (ofMagnitudeBits true 0))
  /-- Two floats, one of them a NaN, about a whole number. -/
  | floatsAboutWhole {x y : Binary64} {i : Int64} (hlt : y.totalKey < x.totalKey)
      (hnan : x.isNaN = true ∨ y.isNaN = true)
      (hx : x.isNaN = true ∨ x.numericKey ≤ (ofInt i.toInt).numericKey)
      (hy : y.isNaN = true ∨ (ofInt i.toInt).numericKey ≤ y.numericKey) :
      Torn (.float x) (.int i) (.float y)
  /-- A float before a NaN, which has the place of a whole number below the float. -/
  | beforeNaN {x y : Binary64} {i : Int64} (hx : x.isNaN = false) (hy : y.isNaN = true)
      (hsign : y.negative = false) (hlt : (ofInt i.toInt).numericKey < x.numericKey) :
      Torn (.float x) (.float y) (.int i)
  /-- A float after a negative NaN, which has the place of a whole number above the float. -/
  | afterNaN {x y : Binary64} {i : Int64} (hx : x.isNaN = true) (hy : y.isNaN = false)
      (hsign : x.negative = true) (hlt : y.numericKey < (ofInt i.toInt).numericKey) :
      Torn (.int i) (.float x) (.float y)
  /-- A date or a timestamp between two texts that come in the other order. -/
  | textsAbout {s t : String} {c : Cell} (hc : Temporal c) (hgt : textOrder s t = .gt)
      (hs : (beside s c).isLE) (ht : (beside t c).isGE) : Torn (.text s) c (.text t)
  /-- Two texts in order, of which the second is before a date or a timestamp, but not the first. -/
  | textsAfter {s t : String} {c : Cell} (hc : Temporal c) (hle : (textOrder s t).isLE)
      (hs : (beside s c).isGE) (ht : beside t c = .lt) : Torn c (.text s) (.text t)
  /-- Two texts in order, of which the first is after a date or a timestamp, but not the second. -/
  | textsBefore {s t : String} {c : Cell} (hc : Temporal c) (hle : (textOrder s t).isLE)
      (hs : beside s c = .gt) (ht : (beside t c).isLE) : Torn (.text s) (.text t) c
  /-- A text that has the place of its day, but is after a moment that the midnight is not after. -/
  | textAfterOwnDay {s : String} {t u : Timestamp} (hread : (text s).timestamp? = some u)
      (hle : ((Timestamp.ofDate u.date).order t).isLE) (hlt : t.order u = .lt) :
      Torn (.text s) (.date u.date) (.timestamp t)
  /-- A moment past midnight that is not after a text, which has the place of its day. -/
  | momentAfterOwnDay {s : String} {t u : Timestamp} (hread : (text s).timestamp? = some u)
      (hlt : (Timestamp.ofDate u.date).order t = .lt) (hle : (t.order u).isLE) :
      Torn (.timestamp t) (.text s) (.date u.date)

/-! ## Numbers -/

section Numbers

variable {a b c : Cell} {i j : Int64} {x y : Binary64}

theorem torn_int_float_int (hab : ((int i).order (float x)).isLE)
    (hbc : ((float x).order (int j)).isLE) (hac : ¬((int i).order (int j)).isLE) :
    Torn (int i) (float x) (int j) := by
  rw [isLE_int_float] at hab
  rw [isLE_float_int] at hbc
  rw [isLE_int_int, Int.not_le] at hac
  by_cases hx : x.isNaN = true
  · exact .wholesAboutNaN hac hx
  · have hround := numericKey_ofInt_mono (Int.le_of_lt hac)
    have hi := hab.resolve_left hx
    have hj := hbc.resolve_left hx
    exact .rounded hac (Bool.eq_false_of_not_eq_true hx) (by omega) (by omega)

theorem torn_float_int_float (hab : ((float x).order (int i)).isLE)
    (hbc : ((int i).order (float y)).isLE) (hac : ¬((float x).order (float y)).isLE) :
    Torn (float x) (int i) (float y) := by
  rw [isLE_float_int] at hab
  rw [isLE_int_float] at hbc
  rw [isLE_float_float, Int.not_le] at hac
  by_cases hnan : x.isNaN = true ∨ y.isNaN = true
  · exact .floatsAboutWhole hac hnan hab hbc
  · obtain ⟨hx, hy⟩ := not_or.mp hnan
    -- in the order of the totals the numbers are the other way round, so all places are one
    have hle := numericKey_le_of_totalKey_le (Int.le_of_lt hac)
    have hi := hab.resolve_left hx
    have hi' := hbc.resolve_left hy
    obtain ⟨rfl, rfl⟩ := zeros_of_totalKey_lt (by omega) hac
    have hzero : (ofMagnitudeBits false 0).numericKey = 0 := by decide
    have hzero' : (ofMagnitudeBits true 0).numericKey = 0 := by decide
    have hwhole : i.toInt = 0 := numericKey_ofInt_eq_zero_iff.mp (by omega)
    obtain rfl : i = 0 := Int64.toInt_inj.mp hwhole
    exact .zeros

theorem torn_float_float_int (hab : ((float x).order (float y)).isLE)
    (hbc : ((float y).order (int i)).isLE) (hac : ¬((float x).order (int i)).isLE) :
    Torn (float x) (float y) (int i) := by
  rw [isLE_float_float] at hab
  rw [isLE_float_int] at hbc hac
  obtain ⟨hx, hlt⟩ := not_or.mp hac
  have hle := numericKey_le_of_totalKey_le hab
  by_cases hy : y.isNaN = true
  · have hx' := Bool.eq_false_of_not_eq_true hx
    exact .beforeNaN hx' hy ((totalKey_le_iff_of_isNaN_right hx' hy).mp hab) (Int.not_le.mp hlt)
  · exact absurd (hle.trans (hbc.resolve_left hy)) hlt

theorem torn_int_float_float (hab : ((int i).order (float x)).isLE)
    (hbc : ((float x).order (float y)).isLE) (hac : ¬((int i).order (float y)).isLE) :
    Torn (int i) (float x) (float y) := by
  rw [isLE_float_float] at hbc
  rw [isLE_int_float] at hab hac
  obtain ⟨hy, hlt⟩ := not_or.mp hac
  have hle := numericKey_le_of_totalKey_le hbc
  by_cases hx : x.isNaN = true
  · have hy' := Bool.eq_false_of_not_eq_true hy
    exact .afterNaN hx hy' ((totalKey_le_iff_of_isNaN_left hx hy').mp hbc) (Int.not_le.mp hlt)
  · exact absurd ((hab.resolve_left hx).trans hle) hlt

/-- Whole numbers before a float keep their order. -/
theorem isLE_int_int_float (hab : ((int i).order (int j)).isLE)
    (hbc : ((int j).order (float x)).isLE) : ((int i).order (float x)).isLE := by
  rw [isLE_int_int] at hab
  rw [isLE_int_float] at hbc ⊢
  exact hbc.imp id (numericKey_ofInt_mono hab).trans

/-- Whole numbers after a float keep their order. -/
theorem isLE_float_int_int (hab : ((float x).order (int i)).isLE)
    (hbc : ((int i).order (int j)).isLE) : ((float x).order (int j)).isLE := by
  rw [isLE_float_int] at hab ⊢
  rw [isLE_int_int] at hbc
  exact hab.imp id fun h => h.trans (numericKey_ofInt_mono hbc)

theorem torn_of_number (ha : Number a) (hb : Number b) (hc : Number c) (hab : (a.order b).isLE)
    (hbc : (b.order c).isLE) (hac : ¬(a.order c).isLE) : Torn a b c := by
  cases ha with
  | int i =>
    cases hb with
    | int j =>
      cases hc with
      | int k =>
        rw [isLE_int_int] at hab hbc hac
        exact absurd (hab.trans hbc) hac
      | float x => exact absurd (isLE_int_int_float hab hbc) hac
    | float x =>
      cases hc with
      | int k => exact torn_int_float_int hab hbc hac
      | float y => exact torn_int_float_float hab hbc hac
  | float x =>
    cases hb with
    | int j =>
      cases hc with
      | int k => exact absurd (isLE_float_int_int hab hbc) hac
      | float y => exact torn_float_int_float hab hbc hac
    | float y =>
      cases hc with
      | int k => exact torn_float_float_int hab hbc hac
      | float z =>
        rw [isLE_float_float] at hab hbc hac
        exact absurd (hab.trans hbc) hac

end Numbers

/-! ## Dates, timestamps and texts -/

section Moments

variable {a b c : Cell} {s : String} {t u : Timestamp} {d : Date}

theorem beside_date (hread : (text s).timestamp? = some u) (d : Date) :
    beside s (date d) = u.date.order d := by
  rw [beside, hread, Option.elim_some]

theorem beside_timestamp (hread : (text s).timestamp? = some u) (t : Timestamp) :
    beside s (timestamp t) = u.order t := by
  rw [beside, hread, Option.elim_some]

/-- A text that is not before a date or a timestamp reads as something. -/
theorem exists_read_of_beside (hc : Temporal c) (h : beside s c ≠ .lt) :
    ∃ u, (text s).timestamp? = some u := by
  by_contra hnone
  have hread : (text s).timestamp? = none := by
    cases hs : (text s).timestamp? with
    | none => rfl
    | some u => exact absurd ⟨u, hs⟩ hnone
  apply h
  cases hc <;> rw [beside, hread, Option.elim_none]

theorem isLE_temporal_text (hc : Temporal c) :
    (c.order (text s)).isLE = (beside s c).isGE := by
  rw [order_swap, order_text s hc, Ordering.isLE_swap]

theorem Temporal.exists_moment (hc : Temporal c) : ∃ t, c.moment? = some t := by
  cases hc with
  | date d => exact ⟨_, rfl⟩
  | timestamp t => exact ⟨_, rfl⟩

/-- A text is before a date or a timestamp if what it reads as is before the moment of that. -/
theorem beside_eq_lt_iff (hread : (text s).timestamp? = some u) (hc : c.moment? = some t) :
    beside s c = .lt ↔ u.order t = .lt := by
  cases c <;> simp only [moment?, Option.some.injEq, reduceCtorEq] at hc <;> subst hc
  case date d =>
    rw [beside_date hread]
    exact Timestamp.order_ofDate_eq_lt_iff.symm
  case timestamp t => rw [beside_timestamp hread]

/-- Dates and timestamps keep their order. -/
theorem isLE_temporal_trans (ha : Temporal a) (hb : Temporal b) (hc : Temporal c)
    (hab : (a.order b).isLE) (hbc : (b.order c).isLE) : (a.order c).isLE := by
  obtain ⟨t, ht⟩ := ha.exists_moment
  obtain ⟨u, hu⟩ := hb.exists_moment
  obtain ⟨v, hv⟩ := hc.exists_moment
  rw [order_of_moment ht hu] at hab
  rw [order_of_moment hu hv] at hbc
  rw [order_of_moment ht hv]
  exact Std.TransCmp.isLE_trans hab hbc

/-- Dates and timestamps before a text keep their order. -/
theorem isLE_temporal_temporal_text (ha : Temporal a) (hb : Temporal b)
    (hab : (a.order b).isLE) (hbc : (b.order (text s)).isLE) : (a.order (text s)).isLE := by
  rw [isLE_temporal_text hb, Ordering.isGE_iff_ne_lt] at hbc
  rw [isLE_temporal_text ha, Ordering.isGE_iff_ne_lt]
  obtain ⟨v, hread⟩ := exists_read_of_beside hb hbc
  obtain ⟨t, ht⟩ := ha.exists_moment
  obtain ⟨u, hu⟩ := hb.exists_moment
  rw [order_of_moment ht hu] at hab
  rw [beside_eq_lt_iff hread hu] at hbc
  rw [beside_eq_lt_iff hread ht]
  exact fun hlt => hbc (Std.TransCmp.lt_of_lt_of_isLE hlt hab)

/-- A moment that is on a day or before it, and not before the midnight of that day, is on it. -/
theorem date_eq_of_isLE (hle : (u.date.order d).isLE) (hnot : u.order (.ofDate d) ≠ .lt) :
    u.date = d := by
  rw [Ne, Timestamp.order_ofDate_eq_lt_iff] at hnot
  cases ho : u.date.order d with
  | lt => exact absurd ho hnot
  | eq => exact Std.LawfulEqCmp.eq_of_compare ho
  | gt =>
    rw [ho] at hle
    exact absurd hle nofun

theorem torn_text_temporal_temporal (hb : Temporal b) (hc : Temporal c)
    (hab : ((text s).order b).isLE) (hbc : (b.order c).isLE) (hac : ¬((text s).order c).isLE) :
    Torn (text s) b c := by
  rw [order_text s hb] at hab
  rw [order_text s hc] at hac
  have hgt : beside s c = .gt := Ordering.isLE_eq_false.mp (Bool.eq_false_of_not_eq_true hac)
  obtain ⟨u, hread⟩ := exists_read_of_beside hc (by rw [hgt]; exact nofun)
  cases hb with
  | date d =>
    rw [beside_date hread] at hab
    cases hc with
    | date e =>
      rw [beside_date hread] at hac
      exact absurd (Std.TransCmp.isLE_trans hab hbc) hac
    | timestamp t =>
      rw [beside_timestamp hread] at hac hgt
      have hmidnight : ((Timestamp.ofDate d).order t).isLE := hbc
      obtain rfl : u.date = d := by
        refine date_eq_of_isLE hab ?_
        intro hlt
        exact hac (Std.TransCmp.isLE_trans (Ordering.isLE_of_eq_lt hlt) hmidnight)
      exact .textAfterOwnDay hread hmidnight (Std.OrientedCmp.gt_iff_lt.mp hgt)
  | timestamp t =>
    rw [beside_timestamp hread] at hab
    cases hc with
    | date e =>
      rw [beside_date hread] at hgt
      have hle : (u.order (.ofDate e)).isLE := Std.TransCmp.isLE_trans hab hbc
      rw [Timestamp.order_ofDate_of_gt hgt] at hle
      exact absurd hle nofun
    | timestamp t' =>
      rw [beside_timestamp hread] at hac
      exact absurd (Std.TransCmp.isLE_trans hab hbc) hac

theorem torn_temporal_text_temporal (ha : Temporal a) (hc : Temporal c)
    (hab : (a.order (text s)).isLE) (hbc : ((text s).order c).isLE) (hac : ¬(a.order c).isLE) :
    Torn a (text s) c := by
  rw [isLE_temporal_text ha] at hab
  rw [order_text s hc] at hbc
  have hgt : a.order c = .gt := Ordering.isLE_eq_false.mp (Bool.eq_false_of_not_eq_true hac)
  have hlt : c.order a = .lt := by rw [order_swap, hgt]; rfl
  have hnot : beside s a ≠ .lt := Ordering.isGE_iff_ne_lt.mp hab
  obtain ⟨u, hread⟩ := exists_read_of_beside ha hnot
  obtain ⟨m, hm⟩ := ha.exists_moment
  rw [Ne, beside_eq_lt_iff hread hm] at hnot
  cases hc with
  | date e =>
    rw [beside_date hread] at hbc
    -- the text is no later than this day, but no earlier than a moment that is past its midnight
    obtain rfl : u.date = e := by
      refine date_eq_of_isLE hbc ?_
      intro hbefore
      rw [order_of_moment (by rfl) hm] at hlt
      exact hnot (Std.TransCmp.lt_trans hbefore hlt)
    cases ha with
    | date d =>
      rw [beside_date hread] at hab
      exact absurd hlt (Ordering.isGE_iff_ne_lt.mp hab)
    | timestamp t =>
      rw [beside_timestamp hread] at hab
      exact .momentAfterOwnDay hread hlt (Std.OrientedCmp.isGE_iff_isLE.mp hab)
  | timestamp t =>
    rw [beside_timestamp hread] at hbc
    rw [order_of_moment (by rfl) hm] at hlt
    exact absurd (Std.TransCmp.lt_of_isLE_of_lt hbc hlt) hnot

/-- The stratum of the texts, dates and timestamps, by the places at which texts stand. -/
theorem torn_of_moment (ha : a.stratum = 2) (hb : b.stratum = 2) (hc : c.stratum = 2)
    (hab : (a.order b).isLE) (hbc : (b.order c).isLE) (hac : ¬(a.order c).isLE) : Torn a b c := by
  rcases text_or_temporal_of_stratum ha with ⟨s, rfl⟩ | ha
  · rcases text_or_temporal_of_stratum hb with ⟨t, rfl⟩ | hb
    · rcases text_or_temporal_of_stratum hc with ⟨v, rfl⟩ | hc
      · have htext : ∀ s t, (text s).order (text t) = textOrder s t := fun _ _ => rfl
        rw [htext] at hab hbc hac
        exact absurd (Std.TransCmp.isLE_trans hab hbc) hac
      · rw [order_text t hc] at hbc
        rw [order_text s hc] at hac
        exact .textsBefore hc hab
          (Ordering.isLE_eq_false.mp (Bool.eq_false_of_not_eq_true hac)) hbc
    · rcases text_or_temporal_of_stratum hc with ⟨v, rfl⟩ | hc
      · rw [order_text s hb] at hab
        rw [isLE_temporal_text hb] at hbc
        exact .textsAbout hb (Ordering.isLE_eq_false.mp (Bool.eq_false_of_not_eq_true hac))
          hab hbc
      · exact torn_text_temporal_temporal hb hc hab hbc hac
  · rcases text_or_temporal_of_stratum hb with ⟨t, rfl⟩ | hb
    · rcases text_or_temporal_of_stratum hc with ⟨v, rfl⟩ | hc
      · rw [isLE_temporal_text ha] at hab hac
        exact .textsAfter ha hbc hab
          (Ordering.isGE_eq_false.mp (Bool.eq_false_of_not_eq_true hac))
      · exact torn_temporal_text_temporal ha hc hab hbc hac
    · rcases text_or_temporal_of_stratum hc with ⟨v, rfl⟩ | hc
      · exact absurd (isLE_temporal_temporal_text ha hb hab hbc) hac
      · exact absurd (isLE_temporal_trans ha hb hc hab hbc) hac

end Moments

/-! ## All triples -/

/-- Triples that are not torn keep their order. -/
theorem torn_of_isLE {a b c : Cell} (hab : (a.order b).isLE) (hbc : (b.order c).isLE)
    (hac : ¬(a.order c).isLE) : Torn a b c := by
  have hca : (c.order a).isLE := by
    rw [order_swap, Ordering.isLE_swap]
    exact Ordering.isGE_of_eq_gt (Ordering.isLE_eq_false.mp (Bool.eq_false_of_not_eq_true hac))
  have hab' := stratum_le_of_isLE hab
  have hbc' := stratum_le_of_isLE hbc
  have hca' := stratum_le_of_isLE hca
  by_cases hnumber : b.stratum = 1
  · exact torn_of_number (number_of_stratum (by omega)) (number_of_stratum hnumber)
      (number_of_stratum (by omega)) hab hbc hac
  by_cases hmoment : b.stratum = 2
  · exact torn_of_moment (by omega) hmoment (by omega) hab hbc hac
  -- booleans and nulls are alone in their strata
  have halone : a.kindName = b.kindName ∧ b.kindName = c.kindName := by
    cases a <;> cases b <;> cases c <;> simp [stratum] at *
    all_goals simp [kindName]
  rw [order_eq_kindOrder halone.1] at hab
  rw [order_eq_kindOrder halone.2] at hbc
  rw [order_eq_kindOrder (halone.1.trans halone.2)] at hac
  exact absurd (Std.TransCmp.isLE_trans hab hbc) hac

/-- Every sort of torn triples is out of order. -/
theorem isLE_of_torn {a b c : Cell} (h : Torn a b c) :
    (a.order b).isLE ∧ (b.order c).isLE ∧ ¬(a.order c).isLE := by
  cases h with
  | rounded hlt hx hi hj =>
    rw [isLE_int_float, isLE_float_int, isLE_int_int, Int.not_le]
    exact ⟨.inr (by omega), .inr (by omega), hlt⟩
  | wholesAboutNaN hlt hx =>
    rw [isLE_int_float, isLE_float_int, isLE_int_int, Int.not_le]
    exact ⟨.inl hx, .inl hx, hlt⟩
  | zeros =>
    rw [isLE_float_int, isLE_int_float, isLE_float_float]
    have hzero : (ofInt (0 : Int64).toInt).numericKey = 0 := numericKey_ofInt_eq_zero_iff.mpr rfl
    rw [hzero]
    decide
  | floatsAboutWhole hlt hnan hx hy =>
    rw [isLE_float_int, isLE_int_float, isLE_float_float, Int.not_le]
    exact ⟨hx, hy, hlt⟩
  | beforeNaN hx hy hsign hlt =>
    rw [isLE_float_float, isLE_float_int, isLE_float_int, totalKey_le_iff_of_isNaN_right hx hy]
    refine ⟨hsign, .inl hy, ?_⟩
    rw [hx, not_or, Int.not_le]
    exact ⟨Bool.false_ne_true, hlt⟩
  | afterNaN hx hy hsign hlt =>
    rw [isLE_float_float, isLE_int_float, isLE_int_float, totalKey_le_iff_of_isNaN_left hx hy]
    refine ⟨.inl hx, hsign, ?_⟩
    rw [hy, not_or, Int.not_le]
    exact ⟨Bool.false_ne_true, hlt⟩
  | @textsAbout s t c hc hgt hs ht =>
    rw [order_text s hc, isLE_temporal_text hc]
    refine ⟨hs, ht, ?_⟩
    show ¬(textOrder s t).isLE
    rw [hgt]
    exact nofun
  | @textsAfter s t c hc hle hs ht =>
    rw [isLE_temporal_text hc, isLE_temporal_text hc, ht]
    exact ⟨hs, hle, nofun⟩
  | @textsBefore s t c hc hle hs ht =>
    rw [order_text t hc, order_text s hc, hs]
    exact ⟨hle, ht, nofun⟩
  | @textAfterOwnDay s t u hread hle hlt =>
    rw [order_text s (.date _), order_text s (.timestamp _), beside_date hread,
      beside_timestamp hread, Date.order_self, Std.OrientedCmp.gt_iff_lt.mpr hlt]
    exact ⟨rfl, hle, nofun⟩
  | @momentAfterOwnDay s t u hread hlt hle =>
    rw [isLE_temporal_text (.timestamp _), order_text s (.date _), beside_date hread,
      beside_timestamp hread, Date.order_self, Std.OrientedCmp.isGE_iff_isLE]
    refine ⟨hle, rfl, ?_⟩
    show ¬(t.order (.ofDate u.date)).isLE
    rw [Std.OrientedCmp.gt_iff_lt.mpr hlt]
    exact nofun

/-- **The order of rows is the same from either side and puts nulls last, but it is transitive only
where cells are not torn.** -/
theorem order_swap_and_torn_iff (a b c : Cell) :
    a.order b = (b.order a).swap ∧ (null.order a = .gt ↔ a ≠ null) ∧
      ((a.order b).isLE ∧ (b.order c).isLE ∧ ¬(a.order c).isLE ↔ Torn a b c) := by
  refine ⟨order_swap a b, ?_, ?_⟩
  · cases a with
    | null => exact iff_of_false nofun fun h => h rfl
    | _ => exact iff_of_true rfl nofun
  · constructor
    · rintro ⟨hab, hbc, hac⟩
      exact torn_of_isLE hab hbc hac
    · exact isLE_of_torn

/-- Two different whole numbers have the place of one float. -/
theorem order_not_transitive :
    (int 9007199254740993).order (float ⟨0x4340000000000000⟩) = .eq ∧
      (float ⟨0x4340000000000000⟩).order (int 9007199254740992) = .eq ∧
      (int 9007199254740993).order (int 9007199254740992) = .gt := by
  decide +kernel

end Crosstab.Cell
