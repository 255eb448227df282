import Crosstab.Proofs.Report.Finished

/-!
# Sums of whole numbers

A sum of whole numbers and nulls, and the total of a column that holds them, add from the top down.
They stay whole as long as every partial sum is a number of 64 bits, and go on as floats from the
first one that is not, even where the exact sum would fit again (`sum_total_of_wholes`,
`sum_leaves_wholes`).

So the order of the rows matters in general.  It does not exactly where the positive numbers alone
and the negative ones alone have sums of 64 bits: all partial sums, in whatever order, lie between
these two (`partialSum_bounds`), and an order that puts the positive or the negative ones first
reaches them.
-/

namespace Crosstab

/-! ## Whole numbers among cells -/

/-- The whole number that a cell holds. -/
def Cell.int? : Cell → Option Int64
  | .int n => some n
  | _ => none

/-- The whole numbers of some cells. -/
def wholes (cells : List Cell) : List Int64 := cells.filterMap Cell.int?

/-- The cells are whole numbers and nulls. -/
def WholeOrNull (cells : List Cell) : Prop := ∀ c ∈ cells, c = .null ∨ ∃ n, c = .int n

/-- The sum without a bound. -/
def exactSum (ns : List Int64) : Int := (ns.map Int64.toInt).sum

/-- The sum of the positive numbers. -/
def gains (ns : List Int64) : Int := (ns.map fun n => max 0 n.toInt).sum

/-- The sum of the negative numbers. -/
def losses (ns : List Int64) : Int := (ns.map fun n => min 0 n.toInt).sum

theorem wholes_cons_int (n : Int64) (cells : List Cell) :
    wholes (.int n :: cells) = n :: wholes cells := rfl

theorem wholes_append (cells more : List Cell) :
    wholes (cells ++ more) = wholes cells ++ wholes more := List.filterMap_append

/-- Without its nulls, a list of whole numbers and nulls is its whole numbers. -/
theorem filter_present {cells : List Cell} (h : WholeOrNull cells) :
    (cells.filter fun c => !c.isNull) = (wholes cells).map .int := by
  induction cells with
  | nil => rfl
  | cons c cells ih =>
    have hrest := ih fun d hd => h d (List.mem_cons_of_mem c hd)
    rcases h c List.mem_cons_self with rfl | ⟨n, rfl⟩
    · exact hrest
    · rw [wholes_cons_int, List.map_cons, ← hrest]
      rfl

theorem wholes_ne_nil {cells : List Cell} {n : Int64} (h : .int n ∈ cells) : wholes cells ≠ [] := by
  intro hnil
  have hmem : n ∈ wholes cells := List.mem_filterMap.mpr ⟨.int n, h, rfl⟩
  rw [hnil] at hmem
  exact List.not_mem_nil hmem

/-! ## Bounds of partial sums -/

/-- Every partial sum lies between the sums of the negative and of the positive numbers. -/
theorem partialSum_bounds (ns : List Int64) (k : Nat) :
    losses ns ≤ exactSum (ns.take k) ∧ exactSum (ns.take k) ≤ gains ns := by
  induction ns generalizing k with
  | nil => simp [exactSum, gains, losses]
  | cons n ns ih =>
    cases k with
    | zero =>
      have hrest := ih 0
      simp only [exactSum, gains, losses, List.take_zero, List.map_nil, List.sum_nil,
        List.map_cons, List.sum_cons] at hrest ⊢
      omega
    | succ k =>
      have hrest := ih k
      simp only [exactSum, gains, losses, List.take_succ_cons, List.map_cons,
        List.sum_cons] at hrest ⊢
      omega

theorem gains_eq (ns : List Int64) : gains ns = exactSum (ns.filter fun n => 0 < n.toInt) := by
  induction ns with
  | nil => rfl
  | cons n ns ih =>
    by_cases hn : 0 < n.toInt
    · simp_all [gains, exactSum]
      omega
    · simp_all [gains, exactSum]

theorem losses_eq (ns : List Int64) : losses ns = exactSum (ns.filter fun n => n.toInt < 0) := by
  induction ns with
  | nil => rfl
  | cons n ns ih =>
    by_cases hn : n.toInt < 0
    · simp_all [losses, exactSum]
      omega
    · simp_all [losses, exactSum]

/-- All partial sums fit if the sums of the negative and of the positive numbers do. -/
theorem partialSumsFit_of_bounds {ns : List Int64} (hlow : ∃ m : Int64, m.toInt = losses ns)
    (hhigh : ∃ m : Int64, m.toInt = gains ns) : PartialSumsFit ns := by
  intro k
  obtain ⟨low, hlow⟩ := hlow
  obtain ⟨high, hhigh⟩ := hhigh
  have hbounds := partialSum_bounds ns k
  have hmin := Int64.minValue_le_toInt low
  have hmax := Int64.toInt_le high
  rw [hlow] at hmin
  rw [hhigh] at hmax
  refine ⟨Int64.ofInt (exactSum (ns.take k)), Int64.toInt_ofInt_of_le ?_ ?_⟩
  · exact hmin.trans hbounds.1
  · exact Int.lt_add_one_of_le (hbounds.2.trans hmax)

/-! ## Sums and totals -/

/-- What whole numbers add up to from the first to the last: a whole number as long as every partial
sum is one, and otherwise a float. -/
def wholeSum (ns : List Int64) : Cell :=
  match (ns.map Cell.int).foldl Reduction.addWhole (some 0) with
  | some n => .int n
  | none => .float (Reduction.total (ns.map fun n => Binary64.ofInt n.toInt))

theorem wholeSum_eq_int_iff {ns : List Int64} {n : Int64} :
    wholeSum ns = .int n ↔ PartialSumsFit ns ∧ n.toInt = exactSum ns := by
  rw [exactSum, ← wholeTotal_eq_some_iff, wholeSum]
  cases (ns.map Cell.int).foldl Reduction.addWhole (some 0) <;> simp

theorem wholeSum_of_fits {ns : List Int64} (h : PartialSumsFit ns) :
    ∃ n : Int64, n.toInt = exactSum ns ∧ wholeSum ns = .int n := by
  obtain ⟨n, hn⟩ := h.exists_sum
  exact ⟨n, hn, wholeSum_eq_int_iff.mpr ⟨h, hn⟩⟩

theorem wholeSum_of_not_fits {ns : List Int64} (h : ¬PartialSumsFit ns) :
    wholeSum ns = .float (Reduction.total (ns.map fun n => Binary64.ofInt n.toInt)) := by
  rw [wholeSum]
  cases hsum : (ns.map Cell.int).foldl Reduction.addWhole (some 0) with
  | none => rfl
  | some n => exact absurd (wholeTotal_eq_some_iff.mp hsum).1 h

theorem totalOf?_wholes (ns : List Int64) : totalOf? (ns.map .int) = some (wholeSum ns) := by
  rw [totalOf?, mapM_number?_ints, Option.bind_eq_bind, Option.bind_some, wholeSum]
  cases (ns.map Cell.int).foldl Reduction.addWhole (some 0) <;> rfl

theorem sumOf_wholes {ns : List Int64} (hns : ns ≠ []) :
    Reduction.sumOf (ns.map .int) = .ok (wholeSum ns) := by
  have hnumbers : (ns.map Cell.int).mapM Reduction.number =
      .ok (ns.map fun n => Binary64.ofInt n.toInt) := by
    rw [List.mapM_map]
    exact mapM_eq_ok_map fun n _ => rfl
  cases ns with
  | nil => exact absurd rfl hns
  | cons n ns =>
    rw [Reduction.sumOf, hnumbers, ok_bind, wholeSum]
    show (match (Cell.int n :: ns.map .int).foldl Reduction.addWhole (some 0) with
      | some n => pure (.int n)
      | none => pure (.float _) : Outcome Cell) = .ok (match
        (Cell.int n :: ns.map .int).foldl Reduction.addWhole (some 0) with
      | some n => .int n
      | none => .float _)
    cases (Cell.int n :: ns.map .int).foldl Reduction.addWhole (some 0) <;> rfl

/-- The column at a position of the table shows the cells; nulls are missing there. -/
structure Table.Shows (t : Table) (i : Nat) (cells : List Cell) : Prop where
  lt : i < t.columns.length
  cells_eq : t.rows.map (·.cellAt? i) = cells.map fun c => if c.isNull then none else some c

/-- The cells add up to a cell, as a measure and in the totals of every table that shows them. -/
structure AddsUpTo (cells : List Cell) (sum : Cell) : Prop where
  sum_eq : Reduction.sum.apply cells = .ok sum
  total_eq : ∀ (t : Table) (i : Nat), t.Shows i cells → t.totals.cellAt? i = some sum

theorem Table.Shows.filterMap_eq {t : Table} {i : Nat} {cells : List Cell} (h : t.Shows i cells) :
    (t.rows.filterMap fun r => r.cellAt? i) = cells.filter fun c => !c.isNull := by
  calc t.rows.filterMap (fun r => r.cellAt? i)
    _ = (t.rows.map (·.cellAt? i)).filterMap id := by
      rw [List.filterMap_map]
      rfl
    _ = cells.filterMap fun c => if c.isNull then none else some c := by
      rw [h.cells_eq, List.filterMap_map]
      rfl
    _ = cells.filter fun c => !c.isNull := by
      rw [← List.filterMap_eq_filter]
      refine List.filterMap_congr fun c _ => ?_
      cases hc : c.isNull <;> simp [Option.guard, hc]

theorem addsUpTo_wholeSum {cells : List Cell} (hcells : WholeOrNull cells)
    (hsome : wholes cells ≠ []) : AddsUpTo cells (wholeSum (wholes cells)) where
  sum_eq := by
    show Reduction.sumOf (cells.filter fun c => !c.isNull) = _
    rw [filter_present hcells, sumOf_wholes hsome]
  total_eq := by
    intro t i ht
    have htotal : t.totals.cells[i]? = some (totalOf? (t.rows.filterMap fun r => r.cellAt? i)) := by
      simp [Table.totals, ht.lt]
    rw [Row.cellAt?, htotal, ht.filterMap_eq, filter_present hcells, totalOf?_wholes]
    rfl

/-! ## Sums in any order -/

theorem wholes_perm {cells other : List Cell} (h : other.Perm cells) :
    (wholes other).Perm (wholes cells) := h.filterMap _

theorem exactSum_eq_of_perm {ns ms : List Int64} (h : ns.Perm ms) : exactSum ns = exactSum ms :=
  (h.map _).sum_eq

/-- If all partial sums fit in every order, those of some of the numbers come first in one order, so
their sum fits. -/
theorem exists_sum_filter {cells : List Cell} (p : Int64 → Bool)
    (h : ∀ other, other.Perm cells → PartialSumsFit (wholes other)) :
    ∃ m : Int64, m.toInt = exactSum ((wholes cells).filter p) := by
  let q : Cell → Bool := fun c => c.int?.any p
  have hfirst : wholes (cells.filter q) = (wholes cells).filter p := by
    rw [wholes, wholes, List.filterMap_filter, List.filter_filterMap]
    refine List.filterMap_congr fun c _ => ?_
    cases c with
    | int n => cases hp : p n <;> simp [q, Cell.int?, Option.filter, hp]
    | _ => rfl
  -- With those numbers first, their sum is one of the partial sums.
  have hfits := h _ (List.filter_append_perm q cells)
  obtain ⟨m, hm⟩ := hfits (wholes (cells.filter q)).length
  refine ⟨m, ?_⟩
  rw [hm, wholes_append, List.take_left, hfirst]
  rfl

/-- **Sums of whole numbers.**  Whole numbers and nulls, at least one of them a whole number, add up
to the exact sum as a whole number if every partial sum from the first to the last is a number of 64
bits, and to a float if one is not.  They add up to the exact sum in every order if and only if the
positive numbers alone and the negative numbers alone have sums of 64 bits. -/
theorem sum_total_of_wholes {cells : List Cell} (hcells : WholeOrNull cells)
    (hsome : ∃ n, .int n ∈ cells) :
    (PartialSumsFit (wholes cells) →
      ∃ n : Int64, n.toInt = exactSum (wholes cells) ∧ AddsUpTo cells (.int n)) ∧
    (¬PartialSumsFit (wholes cells) → AddsUpTo cells
      (.float (Reduction.total ((wholes cells).map fun n => Binary64.ofInt n.toInt)))) ∧
    ((∀ other, other.Perm cells →
        ∃ n : Int64, n.toInt = exactSum (wholes cells) ∧ AddsUpTo other (.int n)) ↔
      (∃ m : Int64, m.toInt = losses (wholes cells)) ∧
        ∃ m : Int64, m.toInt = gains (wholes cells)) := by
  have hne : wholes cells ≠ [] := by
    obtain ⟨n, hn⟩ := hsome
    exact wholes_ne_nil hn
  have hsum : ∀ other, other.Perm cells → AddsUpTo other (wholeSum (wholes other)) := by
    intro other hother
    refine addsUpTo_wholeSum (fun c hc => hcells c (hother.mem_iff.mp hc)) ?_
    intro hnil
    exact hne (List.Perm.nil_eq (hnil ▸ wholes_perm hother)).symm
  refine ⟨?_, ?_, ?_, ?_⟩
  · intro hfits
    obtain ⟨n, hn, hint⟩ := wholeSum_of_fits hfits
    exact ⟨n, hn, hint ▸ hsum cells (.refl cells)⟩
  · intro hfits
    rw [← wholeSum_of_not_fits hfits]
    exact hsum cells (.refl cells)
  · intro hall
    have hfits : ∀ other, other.Perm cells → PartialSumsFit (wholes other) := by
      intro other hother
      obtain ⟨n, -, hn⟩ := hall other hother
      have hcell := (hsum other hother).sum_eq.symm.trans hn.sum_eq
      exact (wholeSum_eq_int_iff.mp (Except.ok.inj hcell)).1
    rw [losses_eq, gains_eq]
    exact ⟨exists_sum_filter _ hfits, exists_sum_filter _ hfits⟩
  · rintro ⟨hlow, hhigh⟩ other hother
    have hperm := wholes_perm hother
    have hfits : PartialSumsFit (wholes other) := by
      refine partialSumsFit_of_bounds ?_ ?_
      · rwa [losses, (hperm.map _).sum_eq, ← losses]
      · rwa [gains, (hperm.map _).sum_eq, ← gains]
    obtain ⟨n, hn, hint⟩ := wholeSum_of_fits hfits
    exact ⟨n, hn.trans (exactSum_eq_of_perm hperm), hint ▸ hsum other hother⟩

/-- The largest whole number, and two numbers that cancel each other. -/
def peak : List Cell := [.int Int64.maxValue, .int 1, .int (-1)]

/-- The same numbers, the negative one first and a null between them. -/
def lowPeak : List Cell := [.int (-1), .null, .int Int64.maxValue, .int 1]

theorem wholeOrNull_peak : WholeOrNull peak := by simp [WholeOrNull, peak]

theorem wholeSum_peak : wholeSum (wholes peak) = .float ⟨0x43E0000000000000⟩ := by decide +kernel

/-- The exact sum of the three numbers fits, but the first two add up to more than 64 bits hold, and
what follows does not bring the sum back. -/
theorem sum_leaves_wholes :
    WholeOrNull peak ∧ Int64.maxValue.toInt = exactSum (wholes peak) ∧
    Reduction.sum.apply peak = .ok (.float ⟨0x43E0000000000000⟩) ∧
    totalOf? peak = some (.float ⟨0x43E0000000000000⟩) ∧
    Reduction.sum.apply lowPeak = .ok (.int Int64.maxValue) := by
  have hpeak : AddsUpTo peak (wholeSum (wholes peak)) :=
    addsUpTo_wholeSum wholeOrNull_peak (by decide)
  refine ⟨wholeOrNull_peak, by decide, ?_, ?_, rfl⟩
  · rw [hpeak.sum_eq, wholeSum_peak]
  · rw [← wholeSum_peak, ← totalOf?_wholes]
    rfl

/-- One order of the numbers keeps their sum whole and another one does not, and the positive ones
alone have no sum of 64 bits. -/
theorem sum_total_peak :
    WholeOrNull lowPeak ∧ PartialSumsFit (wholes lowPeak) ∧
    (∃ n : Int64, n.toInt = exactSum (wholes lowPeak) ∧ AddsUpTo lowPeak (.int n)) ∧
    WholeOrNull peak ∧ ¬PartialSumsFit (wholes peak) ∧
    AddsUpTo peak
      (.float (Reduction.total ((wholes peak).map fun n => Binary64.ofInt n.toInt))) := by
  have hlow : WholeOrNull lowPeak := by simp [WholeOrNull, lowPeak]
  have hfits : PartialSumsFit (wholes lowPeak) :=
    (wholeSum_eq_int_iff (n := Int64.maxValue).mp (by decide +kernel)).1
  have hnot : ¬PartialSumsFit (wholes peak) := by
    intro h
    obtain ⟨n, -, hn⟩ := wholeSum_of_fits h
    rw [wholeSum_peak] at hn
    exact absurd hn nofun
  have hlow' := sum_total_of_wholes hlow ⟨1, by decide⟩
  have hpeak' := sum_total_of_wholes wholeOrNull_peak ⟨1, by decide⟩
  exact ⟨hlow, hfits, hlow'.1 hfits, wholeOrNull_peak, hnot, hpeak'.2.1 hnot⟩

end Crosstab
