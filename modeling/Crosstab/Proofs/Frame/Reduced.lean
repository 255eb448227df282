import Crosstab.Frame.Reduction
import Crosstab.Proofs.Cell.Order
import Crosstab.Proofs.Frame.Groups
import Mathlib.Algebra.BigOperators.Group.List.Basic
import Mathlib.Algebra.Ring.Int.Defs

/-!
# Reductions that do not look at the order of cells

Counts are the same for the same cells in any order.  The others look at the order in general:
extremes where cells do not differ in the order of rows and still are different cells, sums where a
partial sum does not fit or floats are added, and means.  `Reduction.Unordered` says of a reduction
and some cells when they do not.

* Cells of one kind do not differ in the order only if they are the same, so that the least and the
  greatest of them are fixed (`least_eq_of_perm`, `greatest_eq_of_perm`).
* Where the absolute values of whole numbers add up to a number of 64 bits, all partial sums fit,
  and the sum is that of whole numbers without a bound (`foldl_addWhole`).
-/

namespace Crosstab

/-! ## Choosing one of some members -/

section

variable {α : Type} {K : α → Prop} {R : α → α → Prop} {pick : α → α → α}

/-- What is chosen, two by two, is a member that comes before all others. -/
theorem foldl_pick (hpick : ∀ a b, K a → K b →
      (pick a b = a ∨ pick a b = b) ∧ R (pick a b) a ∧ R (pick a b) b)
    (hrefl : ∀ a, R a a) (htrans : ∀ a b c, R a b → R b c → R a c) {a : α} {rest : List α}
    (hK : ∀ c ∈ a :: rest, K c) :
    rest.foldl pick a ∈ a :: rest ∧ ∀ c ∈ a :: rest, R (rest.foldl pick a) c := by
  induction rest generalizing a with
  | nil =>
    refine ⟨List.mem_singleton_self a, ?_⟩
    intro c hc
    rw [List.mem_singleton.mp hc]
    exact hrefl a
  | cons b rest ih =>
    have ha := hK a List.mem_cons_self
    have hb := hK b (List.mem_cons_of_mem a List.mem_cons_self)
    obtain ⟨hmem, hleft, hright⟩ := hpick a b ha hb
    have hK' : ∀ c ∈ pick a b :: rest, K c := by
      refine List.forall_mem_cons.mpr ⟨?_, ?_⟩
      · rcases hmem with heq | heq <;> rwa [heq]
      · exact fun c hc => hK c (List.mem_cons_of_mem a (List.mem_cons_of_mem b hc))
    obtain ⟨hchosen, hfirst⟩ := ih hK'
    rw [List.foldl_cons]
    refine ⟨?_, ?_⟩
    · rcases List.mem_cons.mp hchosen with heq | hrest
      · rw [heq, List.mem_cons, List.mem_cons]
        exact hmem.imp_right .inl
      · exact List.mem_cons_of_mem a (List.mem_cons_of_mem b hrest)
    · have hpicked := hfirst _ List.mem_cons_self
      refine List.forall_mem_cons.mpr ⟨htrans _ _ _ hpicked hleft, ?_⟩
      refine List.forall_mem_cons.mpr ⟨htrans _ _ _ hpicked hright, ?_⟩
      exact fun c hc => hfirst c (List.mem_cons_of_mem _ hc)

/-- One member comes before all others, so it is chosen in whatever order they come. -/
theorem foldl_pick_eq_of_perm (hpick : ∀ a b, K a → K b →
      (pick a b = a ∨ pick a b = b) ∧ R (pick a b) a ∧ R (pick a b) b)
    (hrefl : ∀ a, R a a) (htrans : ∀ a b c, R a b → R b c → R a c)
    (hantisymm : ∀ a b, R a b → R b a → a = b) {a b : α} {as bs : List α}
    (hK : ∀ c ∈ a :: as, K c) (h : (a :: as).Perm (b :: bs)) :
    as.foldl pick a = bs.foldl pick b := by
  obtain ⟨hmem, hfirst⟩ := foldl_pick hpick hrefl htrans hK
  obtain ⟨hmem', hfirst'⟩ := foldl_pick hpick hrefl htrans fun c hc => hK c (h.mem_iff.mpr hc)
  exact hantisymm _ _ (hfirst _ (h.mem_iff.mpr hmem')) (hfirst' _ (h.mem_iff.mp hmem))

end

namespace Reduction

/-! ## Extremes -/

/-- Of two cells of one kind one comes first, whichever way they are compared. -/
theorem order_cases {a b : Cell} (h : a.kindName = b.kindName) :
    (a.order b == .gt) = true ∧ (Cell.kindOrder b a).isLE = true ∨
      (a.order b == .gt) = false ∧ (Cell.kindOrder a b).isLE = true := by
  rw [Cell.order_eq_kindOrder h]
  by_cases hgt : Cell.kindOrder a b = .gt
  · exact .inl ⟨beq_iff_eq.mpr hgt, by rw [Std.OrientedCmp.lt_of_gt hgt]; rfl⟩
  · exact .inr ⟨beq_eq_false_iff_ne.mpr hgt, Ordering.isLE_iff_ne_gt.mpr hgt⟩

section

variable {cs ds : List Cell} (hkinds : ∀ a ∈ cs, ∀ b ∈ cs, a.kindName = b.kindName)
  (h : cs.Perm ds)

include hkinds h

/-- A cell is chosen of cells of one kind in whatever order they come, if the one that is chosen of
two comes first. -/
theorem choice_eq_of_perm {pick : Cell → Cell → Cell} {R : Cell → Cell → Prop}
    (hpick : ∀ a b, a.kindName = b.kindName →
      (pick a b = a ∨ pick a b = b) ∧ R (pick a b) a ∧ R (pick a b) b)
    (hrefl : ∀ a, R a a) (htrans : ∀ a b c, R a b → R b c → R a c)
    (hantisymm : ∀ a b, R a b → R b a → a = b) {choice : List Cell → Cell}
    (hchoice : ∀ a as, choice (a :: as) = as.foldl pick a) : choice cs = choice ds := by
  cases cs with
  | nil => rw [h.nil_eq]
  | cons a as =>
    cases ds with
    | nil => exact absurd h.symm.nil_eq (List.cons_ne_nil a as).symm
    | cons b bs =>
      rw [hchoice, hchoice]
      refine foldl_pick_eq_of_perm (K := fun c => c.kindName = a.kindName) ?_ hrefl htrans
        hantisymm (fun c hc => hkinds c hc a List.mem_cons_self) h
      exact fun c d hc hd => hpick c d (hc.trans hd.symm)

theorem least_eq_of_perm : least cs = least ds := by
  refine choice_eq_of_perm hkinds h (R := fun a b => (Cell.kindOrder a b).isLE = true) ?_
    (fun a => Std.ReflCmp.isLE_rfl) (fun a b c => Std.TransCmp.isLE_trans)
    (fun a b hab hba => Std.LawfulEqCmp.eq_of_compare (Std.OrientedCmp.isLE_antisymm hab hba))
    fun a as => rfl
  intro a b hkind
  rcases order_cases hkind with ⟨hgt, hle⟩ | ⟨hgt, hle⟩
  · rw [hgt]
    exact ⟨.inr rfl, hle, Std.ReflCmp.isLE_rfl⟩
  · rw [hgt]
    exact ⟨.inl rfl, Std.ReflCmp.isLE_rfl, hle⟩

theorem greatest_eq_of_perm : greatest cs = greatest ds := by
  refine choice_eq_of_perm hkinds h (R := fun a b => (Cell.kindOrder b a).isLE = true) ?_
    (fun a => Std.ReflCmp.isLE_rfl) (fun a b c hab hbc => Std.TransCmp.isLE_trans hbc hab)
    (fun a b hab hba => Std.LawfulEqCmp.eq_of_compare (Std.OrientedCmp.isLE_antisymm hba hab))
    fun a as => rfl
  intro a b hkind
  rcases order_cases hkind with ⟨hgt, hle⟩ | ⟨hgt, hle⟩
  · rw [hgt]
    exact ⟨.inl rfl, Std.ReflCmp.isLE_rfl, hle⟩
  · rw [hgt]
    exact ⟨.inr rfl, hle, Std.ReflCmp.isLE_rfl⟩

end

/-! ## Sums of whole numbers -/

/-- The whole number of a cell. -/
def whole : Cell → Int
  | .int n => n.toInt
  | _ => 0

/-- The largest sum that stays a whole number. -/
def largest : Nat := 2 ^ 63 - 1

theorem exists_int_of_kindName {c : Cell} (h : c.kindName = "int") : ∃ n, c = .int n := by
  cases Cell.sameKind_of_kindName (h.trans (rfl : _ = (Cell.int 0).kindName)) with
  | int n m => exact ⟨n, rfl⟩

theorem toInt_ofInt_of_natAbs_le {n : Int} (h : n.natAbs ≤ largest) :
    (Int64.ofInt n).toInt = n := by
  unfold largest at h
  exact Int64.toInt_ofInt_of_le (by omega) (by omega)

theorem int64?_of_natAbs_le {n : Int} (h : n.natAbs ≤ largest) :
    int64? n = some (Int64.ofInt n) := by
  have hmin : Int64.minValue.toInt = -(2 ^ 63) := rfl
  have hmax : Int64.maxValue.toInt = 2 ^ 63 - 1 := rfl
  unfold largest at h
  rw [int64?, hmin, hmax, if_pos (by omega)]

theorem natAbs_add_le_of_fits {a b : Int} {rest : Nat}
    (hfits : a.natAbs + (b.natAbs + rest) ≤ largest) : (a + b).natAbs + rest ≤ largest :=
  calc (a + b).natAbs + rest
    _ ≤ a.natAbs + b.natAbs + rest := Nat.add_le_add_right (Int.natAbs_add_le a b) rest
    _ = a.natAbs + (b.natAbs + rest) := Nat.add_assoc _ _ _
    _ ≤ largest := hfits

/-- Where absolute values add up to a number that fits, so do all partial sums. -/
theorem foldl_addWhole {cs : List Cell} {n : Int64} (hints : ∀ c ∈ cs, c.kindName = "int")
    (hfits : n.toInt.natAbs + (cs.map fun c => (whole c).natAbs).sum ≤ largest) :
    cs.foldl addWhole (some n) = some (Int64.ofInt (n.toInt + (cs.map whole).sum)) := by
  induction cs generalizing n with
  | nil => rw [List.foldl_nil, List.map_nil, List.sum_nil, Int.add_zero, Int64.ofInt_toInt]
  | cons c rest ih =>
    obtain ⟨m, rfl⟩ := exists_int_of_kindName (hints c List.mem_cons_self)
    have hrest := natAbs_add_le_of_fits (b := m.toInt) hfits
    have hpartial := Nat.le_of_add_right_le hrest
    have hnext : addWhole (some n) (.int m) = some (Int64.ofInt (n.toInt + m.toInt)) :=
      int64?_of_natAbs_le hpartial
    have hvalue := toInt_ofInt_of_natAbs_le hpartial
    rw [List.foldl_cons, hnext, ih, hvalue, List.map_cons, List.sum_cons, Int.add_assoc]
    · rfl
    · exact fun c hc => hints c (List.mem_cons_of_mem _ hc)
    · rw [hvalue]
      exact hrest

theorem sumOf_eq_of_perm {cs ds : List Cell} (hints : ∀ c ∈ cs, c.kindName = "int")
    (hfits : (cs.map fun c => (whole c).natAbs).sum ≤ largest) (h : cs.Perm ds) :
    sumOf cs = sumOf ds := by
  have hsum : ∀ es : List Cell, cs.Perm es → sumOf es =
      if es = [] then .ok .null else .ok (.int (Int64.ofInt (es.map whole).sum)) := by
    intro es hes
    have hints' : ∀ c ∈ es, c.kindName = "int" := fun c hc => hints c (hes.mem_iff.mpr hc)
    have hfits' : (0 : Int64).toInt.natAbs + (es.map fun c => (whole c).natAbs).sum ≤ largest := by
      rw [← (hes.map fun c => (whole c).natAbs).sum_eq]
      simpa using hfits
    obtain ⟨xs, hxs⟩ : ∃ xs, es.mapM number = .ok xs := by
      refine exists_mapM_eq_ok ?_
      intro c hc
      obtain ⟨n, rfl⟩ := exists_int_of_kindName (hints' c hc)
      exact ⟨_, rfl⟩
    rw [sumOf, hxs, ok_bind]
    cases es with
    | nil => rfl
    | cons c rest =>
      rw [if_neg (List.cons_ne_nil c rest)]
      dsimp only
      rw [foldl_addWhole hints' hfits']
      simp [pure, Except.pure]
  rw [hsum cs (.refl cs), hsum ds h, (h.map whole).sum_eq]
  simp only [← List.length_eq_zero_iff, h.length_eq]

/-! ## What a reduction makes -/

/-- The reduction makes the same of the cells in any order: it counts, or it chooses of cells of one
kind, or it adds whole numbers whose absolute values add up to a whole number. -/
def Unordered (r : Reduction) (cells : List Cell) : Prop :=
  let present := cells.filter fun c => !c.isNull
  match r with
  | .sum => (∀ c ∈ present, c.kindName = "int") ∧
      (present.map fun c => (whole c).natAbs).sum ≤ largest
  | .mean => False
  | .min | .max => ∀ a ∈ present, ∀ b ∈ present, a.kindName = b.kindName
  | .count | .distinct => True

instance (r : Reduction) (cells : List Cell) : Decidable (r.Unordered cells) :=
  match r with
  | .sum => inferInstanceAs (Decidable (_ ∧ _))
  | .mean => inferInstanceAs (Decidable False)
  | .min => inferInstanceAs (Decidable (∀ a ∈ _, ∀ b ∈ _, _))
  | .max => inferInstanceAs (Decidable (∀ a ∈ _, ∀ b ∈ _, _))
  | .count => inferInstanceAs (Decidable True)
  | .distinct => inferInstanceAs (Decidable True)

/-- **Reductions that do not look at the order of cells.** -/
theorem apply_eq_of_perm {r : Reduction} {cs ds : List Cell} (hr : r.Unordered cs)
    (h : cs.Perm ds) : r.apply cs = r.apply ds := by
  have hpresent := h.filter fun c => !c.isNull
  cases r with
  | sum => exact sumOf_eq_of_perm hr.1 hr.2 hpresent
  | mean => exact hr.elim
  | min => exact congrArg Except.ok (least_eq_of_perm hr hpresent)
  | max => exact congrArg Except.ok (greatest_eq_of_perm hr hpresent)
  | count => exact congrArg (fun n => Except.ok (countCell n)) hpresent.length_eq
  | distinct =>
    have hdistinct : (cs.filter fun c => !c.isNull).eraseDups.Perm
        (ds.filter fun c => !c.isNull).eraseDups := by
      refine (List.perm_ext_iff_of_nodup (Frame.nodup_eraseDups _)
        (Frame.nodup_eraseDups _)).mpr ?_
      intro c
      rw [List.mem_eraseDups, List.mem_eraseDups, hpresent.mem_iff]
    exact congrArg (fun n => Except.ok (countCell n)) hdistinct.length_eq

end Reduction

end Crosstab
