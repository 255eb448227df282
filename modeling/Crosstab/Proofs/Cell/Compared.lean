import Crosstab.Proofs.Binary64.Order
import Crosstab.Proofs.Calendar.Order
import Crosstab.Proofs.Cell.Order

/-!
# The order of any two cells

The order of rows has four strata, one after the other: booleans, numbers, texts with dates and
timestamps, and null (`stratum_le_of_isLE`).  It is the same from either side (`order_swap`).

Within a stratum two cells are compared in the ways listed here.  A whole number stands beside a
float where the float that it rounds to does, and has the place of every NaN; a date stands beside a
timestamp where its midnight does; a text stands beside a date as the day that it reads as, beside a
timestamp as the moment that it reads as, and before both if it reads as neither (`order_text`).
-/

namespace Crosstab

open Binary64

namespace Binary64

/-- The numeric comparison is the same from either side. -/
theorem compare?_swap (x y : Binary64) : x.compare? y = (y.compare? x).map Ordering.swap := by
  unfold compare?
  rw [Bool.or_comm y.isNaN]
  by_cases hnan : (x.isNaN || y.isNaN) = true
  · rw [if_pos hnan, if_pos hnan]
    rfl
  · rw [if_neg hnan, if_neg hnan, Std.OrientedOrd.eq_swap (a := x.numericKey)]
    rfl

/-- Where a NaN has the place of every number, a number is not after another that is no less. -/
theorem isLE_compare?_getD {x y : Binary64} : ((x.compare? y).getD .eq).isLE ↔
    (x.isNaN || y.isNaN) = true ∨ x.numericKey ≤ y.numericKey := by
  unfold compare?
  by_cases hnan : (x.isNaN || y.isNaN) = true
  · rw [if_pos hnan]
    exact iff_of_true rfl (.inl hnan)
  · rw [if_neg hnan, Option.getD_some, Std.LawfulOrderOrd.isLE_compare]
    exact (or_iff_right hnan).symm

end Binary64

namespace Cell

/-! ## From either side -/

instance : Std.TransCmp textOrder :=
  inferInstanceAs (Std.TransCmp (compare : String → String → Ordering))

theorem dateOrder?_swap (a b : Option Date) : dateOrder? a b = (dateOrder? b a).map .swap := by
  cases a <;> cases b <;> simp [dateOrder?]
  exact Std.OrientedCmp.eq_swap

theorem timestampOrder?_swap (a b : Option Timestamp) :
    timestampOrder? a b = (timestampOrder? b a).map .swap := by
  cases a <;> cases b <;> simp [timestampOrder?]
  exact Std.OrientedCmp.eq_swap

/-- The comparison of SQL is the same from either side. -/
theorem compare?_swap (a b : Cell) : a.compare? b = (b.compare? a).map .swap := by
  cases a <;> cases b
  -- the pairs that compare, in the order of the kinds
  case bool.bool => exact congrArg some Std.OrientedOrd.eq_swap
  case int.int => exact congrArg some Std.OrientedOrd.eq_swap
  case int.float => exact Binary64.compare?_swap _ _
  case float.int => exact Binary64.compare?_swap _ _
  case float.float => exact Binary64.compare?_swap _ _
  case text.text => exact congrArg some Std.OrientedCmp.eq_swap
  case text.date => exact dateOrder?_swap _ _
  case text.timestamp => exact timestampOrder?_swap _ _
  case date.text => exact dateOrder?_swap _ _
  case date.date => exact congrArg some Std.OrientedCmp.eq_swap
  case date.timestamp => exact congrArg some Std.OrientedCmp.eq_swap
  case timestamp.text => exact timestampOrder?_swap _ _
  case timestamp.date => exact congrArg some Std.OrientedCmp.eq_swap
  case timestamp.timestamp => exact congrArg some Std.OrientedCmp.eq_swap
  all_goals rfl

/-- Two floats go by their total order; else the comparison of SQL decides, or the kinds do. -/
theorem order_eq_getD {a b : Cell} (h : ¬(a.kindName = "float" ∧ b.kindName = "float")) :
    a.order b = (a.compare? b).getD (compare a.rank b.rank) := by
  cases a <;> cases b
  case float.float => exact absurd ⟨rfl, rfl⟩ h
  all_goals rfl

/-- **The order of rows is the same from either side.** -/
theorem order_swap (a b : Cell) : a.order b = (b.order a).swap := by
  by_cases hfloats : a.kindName = "float" ∧ b.kindName = "float"
  · cases sameKind_of_kindName (hfloats.1.trans hfloats.2.symm) with
    | float x y => exact Std.OrientedOrd.eq_swap
    | _ => exact absurd hfloats.1 (by simp [kindName])
  · rw [order_eq_getD hfloats, order_eq_getD (fun h => hfloats h.symm), compare?_swap a b,
      Std.OrientedOrd.eq_swap (a := a.rank)]
    cases b.compare? a <;> rfl

/-! ## Strata -/

/-- The place of a cell among cells that do not compare with it. -/
def stratum : Cell → Nat
  | .bool _ => 0
  | .int _ => 1
  | .float _ => 1
  | .text _ => 2
  | .date _ => 2
  | .timestamp _ => 2
  | .null => 3

theorem order_of_stratum_lt {a b : Cell} (h : b.stratum < a.stratum) : a.order b = .gt := by
  cases a <;> cases b <;> simp [stratum] at h <;> rfl

/-- The strata come one after the other. -/
theorem stratum_le_of_isLE {a b : Cell} (h : (a.order b).isLE) : a.stratum ≤ b.stratum := by
  by_contra hlt
  rw [order_of_stratum_lt (Nat.not_le.mp hlt)] at h
  exact absurd h nofun

/-- A cell that holds a number. -/
inductive Number : Cell → Prop where
  | int (i : Int64) : Number (.int i)
  | float (x : Binary64) : Number (.float x)

theorem number_of_stratum {c : Cell} (h : c.stratum = 1) : Number c := by
  cases c <;> first
    | constructor
    | exact absurd h nofun

/-- A date or a timestamp. -/
inductive Temporal : Cell → Prop where
  | date (d : Date) : Temporal (.date d)
  | timestamp (t : Timestamp) : Temporal (.timestamp t)

theorem text_or_temporal_of_stratum {c : Cell} (h : c.stratum = 2) :
    (∃ s, c = text s) ∨ Temporal c := by
  cases c with
  | text s => exact .inl ⟨s, rfl⟩
  | date d => exact .inr (.date d)
  | timestamp t => exact .inr (.timestamp t)
  | _ => exact absurd h nofun

/-! ## Numbers -/

theorem isLE_int_int {i j : Int64} : ((int i).order (int j)).isLE ↔ i.toInt ≤ j.toInt :=
  Std.LawfulOrderOrd.isLE_compare _ _

/-- A whole number is not after a NaN, nor after a float that is no less than what it rounds to. -/
theorem isLE_int_float {i : Int64} {x : Binary64} :
    ((int i).order (float x)).isLE ↔
      x.isNaN ∨ (ofInt i.toInt).numericKey ≤ x.numericKey := by
  have hcompare : (int i).order (float x) = ((ofInt i.toInt).compare? x).getD .eq :=
    order_eq_getD (by simp [kindName])
  rw [hcompare, isLE_compare?_getD, isNaN_ofInt, Bool.false_or]

theorem isLE_float_int {x : Binary64} {i : Int64} :
    ((float x).order (int i)).isLE ↔
      x.isNaN ∨ x.numericKey ≤ (ofInt i.toInt).numericKey := by
  have hcompare : (float x).order (int i) = (x.compare? (ofInt i.toInt)).getD .eq :=
    order_eq_getD (by simp [kindName])
  rw [hcompare, isLE_compare?_getD, isNaN_ofInt, Bool.or_false]

theorem isLE_float_float {x y : Binary64} :
    ((float x).order (float y)).isLE ↔ x.totalKey ≤ y.totalKey :=
  Std.LawfulOrderOrd.isLE_compare _ _

/-! ## Dates, timestamps and texts -/

/-- The moment of a date or a timestamp. -/
def moment? : Cell → Option Timestamp
  | .date d => some (.ofDate d)
  | .timestamp t => some t
  | _ => none

/-- Dates and timestamps are ordered by their moments. -/
theorem order_of_moment {a b : Cell} {t u : Timestamp} (ha : a.moment? = some t)
    (hb : b.moment? = some u) : a.order b = t.order u := by
  cases a <;> cases b <;> simp only [moment?, Option.some.injEq, reduceCtorEq] at ha hb <;>
    subst ha hb
  case date.date d e => exact (Timestamp.order_ofDate_ofDate d e).symm
  all_goals rfl

/-- The place of a text beside a date or a timestamp: that of the day or the moment that it reads
as, and before if it reads as none. -/
def beside (s : String) : Cell → Ordering
  | .date d => (text s).timestamp?.elim .lt fun u => u.date.order d
  | .timestamp t => (text s).timestamp?.elim .lt fun u => u.order t
  | _ => .lt

theorem order_text (s : String) {c : Cell} (hc : Temporal c) : (text s).order c = beside s c := by
  cases hc with
  | date d =>
    have horder : (text s).order (date d) = (dateOrder? (text s).date? (some d)).getD .lt := rfl
    rw [horder, date?_text, beside]
    cases (text s).timestamp? <;> rfl
  | timestamp t =>
    have horder : (text s).order (timestamp t) =
      (timestampOrder? (text s).timestamp? (some t)).getD .lt := rfl
    rw [horder, beside]
    cases (text s).timestamp? <;> rfl

end Cell

end Crosstab
