import Crosstab.Report.Pivot
import Crosstab.Proofs.Binary64.Rounding

/-!
# The order of cells of one kind

The order by which rows are sorted compares any two cells, whole numbers with floats and dates with
texts among them, and is no linear order of all cells.  Among cells of one kind it is one.

To say so, cells are compared by their parts: `kindOrder` goes by kind, then by the numbers that a
cell is made of, then by its text.  It is a linear order of all cells because it is one of the parts
(`parts_inj`), and on cells of one kind it is the order of rows (`order_eq_kindOrder`), so keys
whose cells have the same kinds are ordered by it too (`keyOrder_eq`).  Where an order is linear, it
does not matter in which order members come that are sorted by it (`mergeSort_eq_of_perm`).
-/

namespace Crosstab

/-! ## Sorting -/

theorem ne_gt_iff_isLE {o : Ordering} : (o != .gt) = true ↔ o.isLE = true := by
  rw [Ordering.isLE_iff_ne_gt, bne_iff_ne]

section

variable {α : Type} (cmp : α → α → Ordering) [Std.TransCmp cmp]

theorem ne_gt_trans (a b c : α) (hab : (cmp a b != .gt) = true) (hbc : (cmp b c != .gt) = true) :
    (cmp a c != .gt) = true := by
  rw [ne_gt_iff_isLE] at hab hbc ⊢
  exact Std.TransCmp.isLE_trans hab hbc

theorem ne_gt_total (a b : α) : (cmp a b != .gt || cmp b a != .gt) = true := by
  rw [Bool.or_eq_true, bne_iff_ne, bne_iff_ne]
  by_cases hgt : cmp a b = .gt
  · exact .inr (Std.OrientedCmp.not_gt_of_gt hgt)
  · exact .inl hgt

/-- Sorting puts members in order. -/
theorem pairwise_mergeSort_cmp (cs : List α) :
    (cs.mergeSort fun a b => cmp a b != .gt).Pairwise fun a b => (cmp a b != .gt) = true :=
  List.pairwise_mergeSort (ne_gt_trans cmp) (ne_gt_total cmp) cs

/-- Members that do not differ in the order stay in the order in which they come. -/
theorem filter_mergeSort_cmp (keep : α → Bool) (cs : List α)
    (h : ∀ a b, keep a = true → keep b = true → cmp a b = .eq) :
    (cs.mergeSort fun a b => cmp a b != .gt).filter keep = cs.filter keep := by
  have hsorted : (cs.filter keep).Pairwise fun a b => (cmp a b != .gt) = true := by
    refine List.pairwise_of_forall_mem_list ?_
    intro a ha b hb
    rw [h a b (List.mem_filter.mp ha).2 (List.mem_filter.mp hb).2]
    rfl
  have hsub : (cs.filter keep).Sublist (cs.mergeSort fun a b => cmp a b != .gt) :=
    List.sublist_mergeSort (ne_gt_trans cmp) (ne_gt_total cmp) hsorted List.filter_sublist
  have hkept := hsub.filter keep
  rw [List.filter_filter] at hkept
  simp only [Bool.and_self] at hkept
  exact (hkept.eq_of_length ((List.mergeSort_perm cs _).symm.filter keep).length_eq).symm

end

/-- Sorted lists with the same members are the same, if in both those of one place come in the same
order. -/
theorem eq_of_pairwise_of_filter_eq {α : Type} {cmp : α → α → Ordering} [Std.TransCmp cmp]
    {as bs : List α} (h : as.Perm bs) (has : as.Pairwise fun a b => (cmp a b != .gt) = true)
    (hbs : bs.Pairwise fun a b => (cmp a b != .gt) = true)
    (hstable : ∀ a ∈ as, as.filter (cmp a · == .eq) = bs.filter (cmp a · == .eq)) : as = bs := by
  induction as generalizing bs with
  | nil => exact h.nil_eq
  | cons a as ih =>
    cases bs with
    | nil => exact absurd h.symm.nil_eq (List.cons_ne_nil a as).symm
    | cons b bs =>
      obtain ⟨hfirst, has'⟩ := List.pairwise_cons.mp has
      obtain ⟨hfirst', hbs'⟩ := List.pairwise_cons.mp hbs
      have hab : (cmp a b).isLE := by
        rcases List.mem_cons.mp (h.mem_iff.mpr List.mem_cons_self) with rfl | hb
        · exact Std.ReflCmp.isLE_rfl
        · exact ne_gt_iff_isLE.mp (hfirst b hb)
      have hba : (cmp b a).isLE := by
        rcases List.mem_cons.mp (h.mem_iff.mp List.mem_cons_self) with rfl | ha
        · exact Std.ReflCmp.isLE_rfl
        · exact ne_gt_iff_isLE.mp (hfirst' a ha)
      have hheads := hstable a List.mem_cons_self
      rw [List.filter_cons, List.filter_cons, Std.OrientedCmp.isLE_antisymm hab hba,
        (Std.ReflCmp.compare_self : cmp a a = .eq)] at hheads
      obtain rfl := (List.cons.inj hheads).1
      refine congrArg (a :: ·) (ih h.cons_inv has' hbs' ?_)
      intro c hc
      have hrest := hstable c (List.mem_cons_of_mem a hc)
      rw [List.filter_cons, List.filter_cons] at hrest
      split at hrest
      · exact (List.cons.inj hrest).2
      · exact hrest

/-- Sorting compares members only. -/
theorem mergeSort_congr_of_mem {α : Type} {order cmp : α → α → Ordering} {cs : List α}
    (hagree : ∀ a ∈ cs, ∀ b ∈ cs, order a b = cmp a b) :
    cs.mergeSort (fun a b => order a b != .gt) = cs.mergeSort (fun a b => cmp a b != .gt) := by
  have hmap := List.map_mergeSort (r := fun a b => order a b != .gt)
    (s := fun a b => cmp a b != .gt) (f := id) (l := cs)
    fun a ha b hb => by rw [hagree a ha b hb]; rfl
  simpa using hmap

/-- Lists with the same members are sorted alike, if the order is linear on these members. -/
theorem mergeSort_eq_of_perm {α : Type} {order cmp : α → α → Ordering} [Std.TransCmp cmp]
    {as bs : List α} (h : as.Perm bs) (hagree : ∀ a ∈ as, ∀ b ∈ as, order a b = cmp a b)
    (heq : ∀ a ∈ as, ∀ b ∈ as, cmp a b = .eq → a = b) :
    as.mergeSort (fun a b => order a b != .gt) = bs.mergeSort (fun a b => order a b != .gt) := by
  have hperm : (as.mergeSort fun a b => cmp a b != .gt).Perm
      (bs.mergeSort fun a b => cmp a b != .gt) :=
    (List.mergeSort_perm as _).trans (h.trans (List.mergeSort_perm bs _).symm)
  have hagree' : ∀ a ∈ bs, ∀ b ∈ bs, order a b = cmp a b := fun a ha b hb =>
    hagree a (h.mem_iff.mpr ha) b (h.mem_iff.mpr hb)
  rw [mergeSort_congr_of_mem hagree, mergeSort_congr_of_mem hagree']
  refine hperm.eq_of_pairwise ?_ (pairwise_mergeSort_cmp cmp as) (pairwise_mergeSort_cmp cmp bs)
  intro a b ha hb hab hba
  have ha' : a ∈ as := (List.mergeSort_perm as _).mem_iff.mp ha
  have hb' : b ∈ as := h.mem_iff.mpr ((List.mergeSort_perm bs _).mem_iff.mp hb)
  exact heq a ha' b hb'
    (Std.OrientedCmp.isLE_antisymm (ne_gt_iff_isLE.mp hab) (ne_gt_iff_isLE.mp hba))

namespace Cell

/-! ## Cells of one kind -/

/-- Two cells of one kind. -/
inductive SameKind : Cell → Cell → Prop where
  | null : SameKind .null .null
  | bool (b c : Bool) : SameKind (.bool b) (.bool c)
  | int (n m : Int64) : SameKind (.int n) (.int m)
  | float (x y : Binary64) : SameKind (.float x) (.float y)
  | text (s t : String) : SameKind (.text s) (.text t)
  | date (d e : Date) : SameKind (.date d) (.date e)
  | timestamp (t u : Timestamp) : SameKind (.timestamp t) (.timestamp u)

theorem sameKind_of_kindName {a b : Cell} (h : a.kindName = b.kindName) : SameKind a b := by
  cases a <;> cases b <;> simp [kindName] at h <;> constructor

/-! ## Cells by their parts -/

/-- The numbers that a date is made of. -/
def dateParts (d : Date) : List Int := [d.year, d.month, d.day]

/-- The numbers that a time of day is made of. -/
def timeParts (t : TimeOfDay) : List Int := [t.hour, t.minute, t.second, t.nanosecond]

/-- The numbers that a cell is made of. -/
def parts : Cell → List Int
  | .null => []
  | .bool b => [if b then 1 else 0]
  | .int n => [n.toInt]
  | .float x => [x.totalKey]
  | .text _ => []
  | .date d => dateParts d
  | .timestamp t => dateParts t.date ++ timeParts t.time

/-- The text of a cell. -/
def ownText : Cell → String
  | .text s => s
  | _ => ""

/-- The order of cells by kind, numbers and text. -/
def kindOrder : Cell → Cell → Ordering :=
  compareLex (compareOn kindName) (compareLex (compareOn parts) (compareOn ownText))

instance : Std.TransCmp kindOrder := by
  unfold kindOrder
  infer_instance

theorem totalKey_inj {x y : Binary64} (h : x.totalKey = y.totalKey) : x = y := by
  have hnegative : x.negative = y.negative := by
    unfold Binary64.totalKey at h
    cases hx : x.negative <;> cases hy : y.negative <;> simp [hx, hy] at h ⊢ <;> omega
  have hmagnitude : x.magnitudeBits = y.magnitudeBits := by
    unfold Binary64.totalKey at h
    rw [hnegative] at h
    split at h <;> omega
  rw [← Binary64.ofMagnitudeBits_self x, ← Binary64.ofMagnitudeBits_self y, hnegative, hmagnitude]

theorem dateParts_inj {d e : Date} (h : dateParts d = dateParts e) : d = e := by
  obtain ⟨year, month, day, hd⟩ := d
  obtain ⟨year', month', day', he⟩ := e
  simp only [dateParts, List.cons.injEq, Int.natCast_inj, and_true] at h
  obtain ⟨rfl, rfl, rfl⟩ := h
  rfl

theorem timeParts_inj {t u : TimeOfDay} (h : timeParts t = timeParts u) : t = u := by
  obtain ⟨hour, minute, second, nanosecond⟩ := t
  obtain ⟨hour', minute', second', nanosecond'⟩ := u
  simp only [timeParts, List.cons.injEq, Int.natCast_inj, Fin.val_inj, and_true] at h
  obtain ⟨rfl, rfl, rfl, rfl⟩ := h
  rfl

/-- A cell is its kind, its numbers and its text. -/
theorem parts_inj {a b : Cell} (hkind : a.kindName = b.kindName) (hparts : a.parts = b.parts)
    (htext : a.ownText = b.ownText) : a = b := by
  cases sameKind_of_kindName hkind with
  | null => rfl
  | bool b c =>
    cases b <;> cases c
    all_goals first
      | rfl
      | exact absurd hparts (by decide)
  | int n m => rw [Int64.toInt_inj.mp (List.head_eq_of_cons_eq hparts)]
  | float x y => rw [totalKey_inj (List.head_eq_of_cons_eq hparts)]
  | text s t => exact congrArg text htext
  | date d e => rw [dateParts_inj hparts]
  | timestamp t u =>
    obtain ⟨d, time⟩ := t
    obtain ⟨e, time'⟩ := u
    obtain ⟨hdate, htime⟩ := List.append_inj hparts rfl
    obtain rfl : d = e := dateParts_inj hdate
    obtain rfl : time = time' := timeParts_inj htime
    rfl

instance : Std.LawfulEqCmp kindOrder where
  eq_of_compare := by
    intro a b h
    obtain ⟨hkind, hrest⟩ := compareLex_eq_eq.mp h
    obtain ⟨hparts, htext⟩ := compareLex_eq_eq.mp hrest
    exact parts_inj (Std.LawfulEqCmp.eq_of_compare hkind) (Std.LawfulEqCmp.eq_of_compare hparts)
      (Std.LawfulEqCmp.eq_of_compare htext)

/-! ## The order of rows -/

theorem compare_natCast (m n : Nat) : compare (m : Int) (n : Int) = compare m n := by
  simp only [compare, compareOfLessAndEq, Int.ofNat_lt, Int.natCast_inj]

theorem compareLex_dateParts (d e : Date) (more more' : List Int) :
    List.compareLex compare (dateParts d ++ more) (dateParts e ++ more') =
      (d.order e).then (List.compareLex compare more more') := by
  simp only [dateParts, List.cons_append, List.nil_append, List.compareLex_cons_cons,
    compare_natCast, Date.order, Ordering.then_assoc]

theorem compareLex_timeParts (t u : TimeOfDay) :
    List.compareLex compare (timeParts t) (timeParts u) = t.order u := by
  simp only [timeParts, List.compareLex_cons_cons, List.compareLex_nil_nil, compare_natCast,
    TimeOfDay.order, Ordering.then_eq]
  rfl

theorem kindOrder_of_sameKind {a b : Cell} (h : a.kindName = b.kindName) :
    kindOrder a b =
      (List.compareLex compare a.parts b.parts).then (compare a.ownText b.ownText) := by
  simp only [kindOrder, compareLex, compareOn, h, Std.ReflCmp.compare_self, Ordering.then,
    List.compare_eq_compareLex]

/-- Among cells of one kind rows are sorted by their parts. -/
theorem order_eq_kindOrder {a b : Cell} (h : a.kindName = b.kindName) :
    a.order b = kindOrder a b := by
  have hempty : compare "" "" = .eq := Std.ReflCmp.compare_self
  rw [kindOrder_of_sameKind h]
  cases sameKind_of_kindName h with
  | null => rfl
  | bool b c => cases b <;> cases c <;> rfl
  | int n m =>
    simp only [parts, ownText, List.compareLex_cons_cons, List.compareLex_nil_nil, hempty,
      Ordering.then_eq]
    rfl
  | float x y =>
    simp only [parts, ownText, List.compareLex_cons_cons, List.compareLex_nil_nil, hempty,
      Ordering.then_eq]
    rfl
  | text s t => rfl
  | date d e =>
    have hdate := compareLex_dateParts d e [] []
    simp only [List.append_nil, List.compareLex_nil_nil, Ordering.then_eq] at hdate
    simp only [parts, ownText, hdate, hempty, Ordering.then_eq]
    rfl
  | timestamp t u =>
    simp only [parts, ownText, compareLex_dateParts, compareLex_timeParts, hempty,
      Ordering.then_eq]
    rfl

end Cell

/-- Keys whose cells have the same kinds, place by place, are ordered by the parts of these. -/
theorem keyOrder_eq {a b : List Cell} (h : a.map Cell.kindName = b.map Cell.kindName) :
    keyOrder a b = List.compareLex Cell.kindOrder a b := by
  unfold keyOrder
  induction a generalizing b with
  | nil =>
    cases b with
    | nil => rfl
    | cons y b => simp at h
  | cons x a ih =>
    cases b with
    | nil => simp at h
    | cons y b =>
      obtain ⟨hhead, htail⟩ := List.cons.inj h
      rw [List.compareLex_cons_cons, List.compareLex_cons_cons, ih htail,
        Cell.order_eq_kindOrder hhead]

end Crosstab
