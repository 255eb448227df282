import Crosstab.Proofs.Cell.Written
import Crosstab.Proofs.Report.Reshape
import Crosstab.Proofs.Report.Sorted
import Mathlib.Algebra.BigOperators.Group.List.Basic
import Mathlib.Algebra.Ring.Int.Defs

/-!
# Finished tables

The last step of a report sorts the rows of a table, cuts them, and adds the row of totals.  What
it makes of a table is told by `Table.Finishes`: the first rows of the stable reordering that the
sort keys mean, as many as the smaller of the two limits, and the totals of all rows that the table
had before.

The total of a column (`ColumnTotal`) is missing if a cell is no number.  It is the sum of whole
numbers as long as every partial sum fits 64 bits, and otherwise the sum of floats from left to
right.
-/

namespace Crosstab

/-! ## Totals -/

/-- All sums of the first few numbers are whole numbers of 64 bits. -/
def PartialSumsFit (ns : List Int64) : Prop :=
  ∀ k, ∃ m : Int64, m.toInt = ((ns.take k).map Int64.toInt).sum

/-- The total of the cells of a column that are there. -/
inductive ColumnTotal : List Cell → Option Cell → Prop where
  | missing {cells : List Cell} {c : Cell} (hc : c ∈ cells) (hno : c.isNumeric = false) :
    ColumnTotal cells none
  | whole {ns : List Int64} {n : Int64} (hfits : PartialSumsFit ns)
      (hsum : n.toInt = (ns.map Int64.toInt).sum) : ColumnTotal (ns.map .int) (some (.int n))
  | overflowing {ns : List Int64} (hfits : ¬PartialSumsFit ns) :
    ColumnTotal (ns.map .int)
      (some (.float (Reduction.total (ns.map fun n => Binary64.ofInt n.toInt))))
  | mixed {cells : List Cell} {x : Binary64} {xs : List Binary64} (hx : .float x ∈ cells)
      (hxs : cells.map Cell.number? = xs.map some) :
    ColumnTotal cells (some (.float (Reduction.total xs)))

namespace Reduction

theorem foldl_addWhole_none (cells : List Cell) : cells.foldl addWhole none = none := by
  induction cells with
  | nil => rfl
  | cons c cells ih => exact ih

/-- A sum of whole numbers ends at a cell that is none. -/
theorem foldl_addWhole_of_mem {cells : List Cell} {c : Cell} (hc : c ∈ cells)
    (hnot : ∀ n, c ≠ .int n) (sum : Option Int64) : cells.foldl addWhole sum = none := by
  induction cells generalizing sum with
  | nil => exact absurd hc List.not_mem_nil
  | cons d cells ih =>
    rw [List.foldl_cons]
    rcases List.mem_cons.mp hc with rfl | hrest
    · have hend : addWhole sum c = none := by
        cases sum with
        | none => rfl
        | some n =>
          cases c with
          | int m => exact absurd rfl (hnot m)
          | _ => rfl
      rw [hend, foldl_addWhole_none]
    · exact ih hrest _

/-- The sum of whole numbers is a whole number if and only if all partial sums are. -/
theorem foldl_addWhole_eq_some_iff {ns : List Int64} {start n : Int64} :
    (ns.map Cell.int).foldl addWhole (some start) = some n ↔
      (∀ k, ∃ m : Int64, m.toInt = start.toInt + ((ns.take k).map Int64.toInt).sum) ∧
        n.toInt = start.toInt + (ns.map Int64.toInt).sum := by
  induction ns generalizing start with
  | nil =>
    simp only [List.map_nil, List.foldl_nil, List.take_nil, List.sum_nil, Int.add_zero,
      Option.some.injEq, Int64.toInt_inj]
    exact ⟨fun h => ⟨fun _ => ⟨start, rfl⟩, h.symm⟩, fun h => h.2.symm⟩
  | cons a ns ih =>
    rw [List.map_cons, List.foldl_cons, List.map_cons, List.sum_cons]
    have hstep : addWhole (some start) (.int a) = int64? (start.toInt + a.toInt) := rfl
    rw [hstep]
    cases hfits : int64? (start.toInt + a.toInt) with
    | none =>
      rw [foldl_addWhole_none]
      refine iff_of_false nofun ?_
      rintro ⟨hpartial, -⟩
      obtain ⟨m, hm⟩ := hpartial 1
      have hsome : int64? (start.toInt + a.toInt) = some m :=
        int64?_eq_some_iff.mpr (by simpa using hm)
      rw [hfits] at hsome
      exact absurd hsome nofun
    | some sum =>
      have hsum : sum.toInt = start.toInt + a.toInt := int64?_eq_some_iff.mp hfits
      rw [ih, hsum, Int.add_assoc]
      refine and_congr_left fun _ => ?_
      constructor
      · intro hpartial k
        cases k with
        | zero => exact ⟨start, by simp⟩
        | succ k =>
          obtain ⟨m, hm⟩ := hpartial k
          exact ⟨m, by rw [hm, List.take_succ_cons, List.map_cons, List.sum_cons, Int.add_assoc]⟩
      · intro hpartial k
        obtain ⟨m, hm⟩ := hpartial (k + 1)
        rw [List.take_succ_cons, List.map_cons, List.sum_cons, ← Int.add_assoc] at hm
        exact ⟨m, hm⟩

end Reduction

theorem mapM_number?_of_map {cells : List Cell} {xs : List Binary64}
    (h : cells.map Cell.number? = xs.map some) : cells.mapM Cell.number? = some xs := by
  induction cells generalizing xs with
  | nil =>
    rw [List.map_eq_nil_iff.mp h.symm]
    rfl
  | cons c cells ih =>
    cases xs with
    | nil => exact absurd h nofun
    | cons x xs =>
      obtain ⟨hc, hcells⟩ := List.cons.inj h
      rw [List.mapM_cons, hc, ih hcells]
      rfl

theorem mapM_number?_eq_none {cells : List Cell} {c : Cell} (hc : c ∈ cells)
    (hno : c.isNumeric = false) : cells.mapM Cell.number? = none := by
  induction cells with
  | nil => exact absurd hc List.not_mem_nil
  | cons d cells ih =>
    rw [List.mapM_cons]
    rcases List.mem_cons.mp hc with rfl | hrest
    · have hnumber : c.number? = none := by
        cases c <;> first
          | rfl
          | exact absurd hno nofun
      rw [hnumber]
      rfl
    · rw [ih hrest]
      cases d.number? <;> rfl

theorem exists_map_number? {cells : List Cell} (h : ∀ c ∈ cells, c.isNumeric = true) :
    ∃ xs : List Binary64, cells.map Cell.number? = xs.map some := by
  refine ⟨cells.map fun c => c.number?.getD .zero, ?_⟩
  rw [List.map_map]
  refine List.map_congr_left ?_
  intro c hc
  have hnumeric := h c hc
  cases c <;> first
    | rfl
    | exact absurd hnumeric nofun

theorem exists_map_int {cells : List Cell} (h : ∀ c ∈ cells, ∃ n, c = .int n) :
    ∃ ns : List Int64, cells = ns.map .int := by
  induction cells with
  | nil => exact ⟨[], rfl⟩
  | cons c cells ih =>
    obtain ⟨⟨n, rfl⟩, hcells⟩ := List.forall_mem_cons.mp h
    obtain ⟨ns, rfl⟩ := ih hcells
    exact ⟨n :: ns, rfl⟩

theorem mapM_number?_ints (ns : List Int64) : (ns.map Cell.int).mapM Cell.number? =
    some (ns.map fun n => Binary64.ofInt n.toInt) := by
  refine mapM_number?_of_map ?_
  rw [List.map_map, List.map_map]
  rfl

/-- Whole numbers have a whole sum if and only if all their partial sums fit. -/
theorem wholeTotal_eq_some_iff {ns : List Int64} {n : Int64} :
    (ns.map Cell.int).foldl Reduction.addWhole (some 0) = some n ↔
      PartialSumsFit ns ∧ n.toInt = (ns.map Int64.toInt).sum := by
  rw [Reduction.foldl_addWhole_eq_some_iff]
  simp only [Int64.toInt_zero, Int.zero_add]
  rfl

theorem PartialSumsFit.exists_sum {ns : List Int64} (h : PartialSumsFit ns) :
    ∃ n : Int64, n.toInt = (ns.map Int64.toInt).sum := by
  simpa using h ns.length

theorem wholeTotal_eq_none {ns : List Int64}
    (h : (ns.map Cell.int).foldl Reduction.addWhole (some 0) = none) : ¬PartialSumsFit ns := by
  intro hfits
  obtain ⟨n, hn⟩ := hfits.exists_sum
  have hsome := wholeTotal_eq_some_iff.mpr ⟨hfits, hn⟩
  rw [h] at hsome
  exact absurd hsome nofun

/-- The total of whole numbers. -/
theorem columnTotal_ints (ns : List Int64) :
    ColumnTotal (ns.map .int) (totalOf? (ns.map .int)) := by
  rw [totalOf?, mapM_number?_ints, Option.bind_eq_bind, Option.bind_some]
  cases hsum : (ns.map Cell.int).foldl Reduction.addWhole (some 0) with
  | some n =>
    obtain ⟨hfits, hn⟩ := wholeTotal_eq_some_iff.mp hsum
    exact .whole hfits hn
  | none => exact .overflowing (wholeTotal_eq_none hsum)

/-- **The total of a column.** -/
theorem columnTotal_totalOf? (cells : List Cell) : ColumnTotal cells (totalOf? cells) := by
  by_cases hno : ∃ c ∈ cells, c.isNumeric = false
  · obtain ⟨c, hc, hno⟩ := hno
    rw [totalOf?, mapM_number?_eq_none hc hno]
    exact .missing hc hno
  have hnumeric : ∀ c ∈ cells, c.isNumeric = true := by
    intro c hc
    by_contra hfalse
    exact hno ⟨c, hc, Bool.eq_false_of_not_eq_true hfalse⟩
  by_cases hfloat : ∃ x, .float x ∈ cells
  · obtain ⟨x, hx⟩ := hfloat
    obtain ⟨xs, hxs⟩ := exists_map_number? hnumeric
    rw [totalOf?, mapM_number?_of_map hxs, Option.bind_eq_bind, Option.bind_some,
      Reduction.foldl_addWhole_of_mem hx nofun]
    exact .mixed hx hxs
  · obtain ⟨ns, rfl⟩ : ∃ ns : List Int64, cells = ns.map .int := by
      refine exists_map_int ?_
      intro c hc
      have hc' := hnumeric c hc
      cases c with
      | int n => exact ⟨n, rfl⟩
      | float x => exact absurd ⟨x, hc⟩ hfloat
      | _ => exact absurd hc' nofun
    exact columnTotal_ints ns

/-! ## Finished tables -/

namespace Table

/-- The row of totals of a table. -/
structure IsTotalOf (row : Row) (t : Table) : Prop where
  key_eq : row.key = .total
  length_cells : row.cells.length = t.columns.length
  total : ∀ i < t.columns.length, ∃ c, row.cells[i]? = some c ∧
    ColumnTotal (t.rows.filterMap fun r => r.cellAt? i) c

theorem isTotalOf_totals (t : Table) : IsTotalOf t.totals t where
  key_eq := rfl
  length_cells := by simp [totals]
  total := by
    intro i hi
    refine ⟨_, ?_, columnTotal_totalOf? _⟩
    simp [totals, hi]

/-- The table `u` has the first of the sorted rows of `t`, and the totals of all of its rows. -/
structure Finishes (t u : Table) (s : Spec) (sorted : List Row) : Prop where
  indexNames_eq : u.indexNames = t.indexNames
  columns_eq : u.columns = t.columns
  rows_eq : s.totals = false → u.rows = sorted.take (s.rowCount t.rows.length)
  rows_eq_of_totals : s.totals = true → ∃ total, IsTotalOf total t ∧
    u.rows = sorted.take (s.rowCount t.rows.length) ++ [total]
  dataRows_eq : (∀ r ∈ t.rows, r.key ≠ .total) →
    u.dataRows = sorted.take (s.rowCount t.rows.length)

theorem finishes_sortRows (t : Table) (s : Spec) :
    t.Finishes (t.finish s) s (t.sortRows s.sortBy) where
  indexNames_eq := rfl
  columns_eq := rfl
  rows_eq := by
    intro htotals
    rw [rows_finish, htotals]
    exact List.append_nil _
  rows_eq_of_totals := by
    intro htotals
    refine ⟨t.totals, t.isTotalOf_totals, ?_⟩
    rw [rows_finish, htotals]
    rfl
  dataRows_eq := t.dataRows_finish s

/-- **A finished table.**  Where each column that a sort key means has cells of one kind, the table
has the first rows of the one stable reordering of its rows that the keys mean, and the totals of
all of its rows. -/
theorem exists_finishes_finish (t : Table) (s : Spec)
    (hkinds : ∀ k ∈ s.sortBy, ∀ i, t.Resolves k.name (some i) → OneKind t.rows i) :
    ∃ targets sorted, t.ResolvesAll s.sortBy targets ∧ StablySorted targets t.rows sorted ∧
      (∀ other, StablySorted targets t.rows other → other = sorted) ∧
      t.Finishes (t.finish s) s sorted := by
  have htargets : ∀ target ∈ t.targets s.sortBy, OneKind t.rows target.1 := by
    intro target htarget
    obtain ⟨k, hk, hcolumn⟩ := List.mem_filterMap.mp htarget
    obtain ⟨i, hi, rfl⟩ := Option.map_eq_some_iff.mp hcolumn
    exact hkinds k hk i (hi ▸ t.resolves_sortColumn? k)
  have hsorted := stablySorted_sortRows htargets
  refine ⟨_, _, t.resolvesAll_targets s.sortBy, hsorted, ?_, t.finishes_sortRows s⟩
  intro other hother
  exact hother.unique htargets hsorted

/-- Clicks and sales of cities in two years; in one year a city had none. -/
def clicksByCity : Table where
  indexNames := ["city"]
  columns := ["clicks / 2023", "clicks / 2024", "sales"]
  rows := [⟨.values [.text "bonn"], [some (.int 5), none, some (.int 1)]⟩,
    ⟨.values [.text "oslo"], [none, some (.int 7), some (.int 2)]⟩,
    ⟨.values [.text "rome"], [some (.int 9), some (.int 3), some (.int 1)]⟩]

/-- Sorted by sales and then by the clicks of the first year, the best ones first. -/
def bestCities : Spec :=
  { sortBy := [⟨"sales", true⟩, ⟨"clicks", false⟩, ⟨"visits", true⟩], topN := some 3,
    limit := some 2, totals := true }

theorem kindName_clicksByCity : ∀ r ∈ clicksByCity.rows, ∀ i, ∀ c ∈ r.cellAt? i,
    c.kindName = "int" := by
  intro r hr i c hc
  have hall : ∀ r ∈ clicksByCity.rows, ∀ cell ∈ r.cells, ∀ c ∈ cell, c.kindName = "int" := by
    decide
  have hcell : r.cells[i]? = some (some c) := Option.join_eq_some_iff.mp hc
  exact hall r hr (some c) (List.mem_of_getElem? hcell) c rfl

/-- The second key means the first column of clicks, and the third means none. -/
theorem exists_finishes_finish_clicksByCity :
    ∃ targets sorted, clicksByCity.ResolvesAll bestCities.sortBy targets ∧
      StablySorted targets clicksByCity.rows sorted ∧
      (∀ other, StablySorted targets clicksByCity.rows other → other = sorted) ∧
      clicksByCity.Finishes (clicksByCity.finish bestCities) bestCities sorted := by
  refine exists_finishes_finish clicksByCity bestCities ?_
  intro k hk i hi q hq r hr a ha b hb
  rw [kindName_clicksByCity q hq i a ha, kindName_clicksByCity r hr i b hb]

end Table

end Crosstab
