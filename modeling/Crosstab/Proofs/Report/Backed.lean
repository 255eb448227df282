import Crosstab.Proofs.Report.Buckets
import Crosstab.Proofs.Report.Engine
import Crosstab.Proofs.Report.Lookup

/-!
# Which rows of a report stand for groups

A data row of a slice is `Report.Backed` if some row of the pivoted table has the keys of the slice
and of the row.  Rows and slices are formed by grouping, and rows that are grouped by nothing are
one group even if there are none of them.  So a table without rows is pivoted to no slices if there
are slicers, to a slice without data rows if there are row keys, and otherwise to a data row that
nothing backs (`Frame.exists_pivot_backed`).

For a report that is made here the rows that are pivoted are the groups that pass the filter of
groups.  `Spec.report_backed_iff` tells when all of its data rows are backed, and what it shows if
they are not; `Spec.report_shows_no_group` is a report of which a row is not.
-/

namespace Crosstab

/-- Each data row of each slice has the keys of a row of the table with a property. -/
def Report.Backed (r : Report) (f : Frame) (p : Plan) (P : Nat → Prop) : Prop :=
  ∀ slice ∈ r.slices, ∀ row ∈ slice.table.dataRows, ∃ i < f.len, P i ∧
    f.tuple p.slicerKeys i = slice.key ∧ .values (f.tuple p.rowKeys i) = row.key

/-- The report has one slice with one data row, neither with a key, and no cell of it is there. -/
def Report.ShowsNothing (r : Report) : Prop :=
  ∃ slice, r.slices = [slice] ∧ slice.key = [] ∧
    ∃ row, slice.table.dataRows = [row] ∧ row.key = .values [] ∧ ∀ cell ∈ row.cells, cell = none

/-- What is backed by some rows of a table is backed by the table of these rows. -/
theorem Report.backed_take_iff {r : Report} {f : Frame} {p : Plan} {P : Nat → Prop}
    {rows : List Nat} (h : f.Selects P rows) :
    r.Backed (f.take rows) p (fun _ => True) ↔ r.Backed f p P := by
  refine forall₂_congr fun slice _ => forall₂_congr fun row _ => ?_
  constructor
  · rintro ⟨j, hj, -, hslice, hrow⟩
    have hj : j < rows.length := hj
    have hat := List.getElem?_eq_getElem hj
    obtain ⟨hi, hP⟩ := (h.mem_iff _).mp (List.getElem_mem hj)
    rw [Frame.tuple_take hat] at hslice hrow
    exact ⟨rows[j], hi, hP, hslice, hrow⟩
  · rintro ⟨i, hi, hP, hslice, hrow⟩
    obtain ⟨j, hj⟩ := List.mem_iff_getElem?.mp ((h.mem_iff i).mpr ⟨hi, hP⟩)
    rw [← Frame.tuple_take hj] at hslice hrow
    exact ⟨j, (List.getElem?_eq_some_iff.mp hj).1, trivial, hslice, hrow⟩

namespace Frame

variable {f : Frame} {p : Plan} {s : Spec} {ls : List Label}

/-- The data rows of a slice are the first of its rows. -/
theorem dataRows_finish_tableOf (f : Frame) (p : Plan) (s : Spec) (ls : List Label)
    (slice : List Cell) : ((f.tableOf p ls slice).finish s).dataRows =
      ((f.tableOf p ls slice).sortRows s.sortBy).take
        (s.rowCount (f.tableOf p ls slice).rows.length) :=
  Table.dataRows_finish _ _ fun _ hr => key_ne_total_of_mem_tableOf hr

/-- With row keys or slicers, or in a table with rows, each row of each slice is backed. -/
theorem exists_backing (h : p.rowKeys ≠ [] ∨ p.slicerKeys ≠ [] ∨ 0 < f.len) {slice : List Cell}
    (hslice : slice ∈ f.tuples p.slicerKeys) {row : Row}
    (hrow : row ∈ (f.tableOf p ls slice).rows) :
    ∃ i < f.len, f.tuple p.slicerKeys i = slice ∧ .values (f.tuple p.rowKeys i) = row.key := by
  obtain ⟨key, hkey, ⟨hnoRows, rfl⟩ | ⟨i, hi, hslice, rfl⟩⟩ :=
    mem_keys_tableOf.mp (List.mem_map_of_mem hrow)
  · -- without row keys, any row of the slice backs its only row
    have hempty : ∀ i, RowKey.values (f.tuple p.rowKeys i) = row.key := by
      intro i
      rw [hkey, hnoRows]
      rfl
    rcases mem_tuples_iff.mp hslice with ⟨hnoSlicers, rfl⟩ | ⟨i, hi, hslice⟩
    · have hlen : 0 < f.len := (h.resolve_left (not_not_intro hnoRows)).resolve_left
        (not_not_intro hnoSlicers)
      exact ⟨0, hlen, by rw [hnoSlicers]; rfl, hempty 0⟩
    · exact ⟨i, hi, hslice, hempty i⟩
  · exact ⟨i, hi, hslice, hkey.symm⟩

theorem backed_slices (ls : List Label) (h : p.rowKeys ≠ [] ∨ p.slicerKeys ≠ [] ∨ 0 < f.len) :
    Report.Backed ⟨p.slicerKeys, (sortKeys (f.tuples p.slicerKeys)).map fun slice =>
      ⟨slice, (f.tableOf p ls slice).finish s⟩⟩ f p fun _ => True := by
  intro slice hslice row hrow
  obtain ⟨key, hkey, rfl⟩ := List.mem_map.mp hslice
  rw [dataRows_finish_tableOf] at hrow
  obtain ⟨i, hi, hslicers, hrows⟩ := exists_backing h (mem_sortKeys.mp hkey)
    ((Table.sortRows_perm _ _).subset (List.mem_of_mem_take hrow))
  exact ⟨i, hi, trivial, hslicers, hrows⟩

/-- Without slicers there is one slice. -/
theorem slices_of_no_slicers (hnoSlicers : p.slicerKeys = []) :
    (sortKeys (f.tuples p.slicerKeys)).map (fun slice =>
      (⟨slice, (f.tableOf p ls slice).finish s⟩ : Slice)) =
      [⟨[], (f.tableOf p ls []).finish s⟩] := by
  rw [hnoSlicers, sortKeys_tuples_nil]
  rfl

/-- Without row keys a slice has one data row, if the limits leave it. -/
theorem dataRows_of_no_keys (ls : List Label) (hnoRows : p.rowKeys = []) (slice : List Cell) :
    ((f.tableOf p ls slice).finish s).dataRows =
      [⟨.values [], ls.map (f.entry? p slice [])⟩].take (s.rowCount 1) := by
  have hrows : (f.tableOf p ls slice).rows = [⟨.values [], ls.map (f.entry? p slice [])⟩] := by
    rw [tableOf, hnoRows, sortKeys_tuples_nil]
    rfl
  rw [dataRows_finish_tableOf, Table.sortRows, hrows, stably_singleton]
  rfl

/-- In a table without rows there is no cell to be shown. -/
theorem entry?_of_no_rows (hlen : f.len = 0) (slice row : List Cell) (l : Label) :
    f.entry? p slice row l = none := by
  unfold entry?
  rw [hlen]
  rfl

/-- **Which rows of a pivoted table are backed.**  All of them, unless there are neither row keys
nor slicers nor rows; then there is one row that shows nothing, if the limits leave it. -/
theorem exists_pivot_backed (hkeys : ∀ name ∈ p.groupKeys, name ∈ f.names)
    (hmetrics : ∀ name ∈ p.metricNames, name ∈ f.names) (hnodup : p.metricNames.Nodup) :
    ∃ r, f.pivot p s = .ok r ∧
      (r.Backed f p (fun _ => True) ↔
        p.rowKeys ≠ [] ∨ p.slicerKeys ≠ [] ∨ 0 < f.len ∨ s.rowCount 1 = 0) ∧
      (¬r.Backed f p (fun _ => True) → r.ShowsNothing) := by
  have hcolumns : ∀ name ∈ p.columnKeys, name ∈ f.names := fun name hname =>
    hkeys name (p.columnKeys_subset hname)
  obtain ⟨ls, houtputs, -⟩ := exists_nodup_outputs hcolumns hnodup
  refine ⟨_, pivot_eq_ok_of_outputs s hkeys hmetrics houtputs, ?_⟩
  by_cases hsome : p.rowKeys ≠ [] ∨ p.slicerKeys ≠ [] ∨ 0 < f.len
  · have hbacked := backed_slices (s := s) ls hsome
    exact ⟨iff_of_true hbacked (hsome.imp_right (·.imp_right .inl)),
      fun hnot => absurd hbacked hnot⟩
  · obtain ⟨hnoRows, hnoSlicers, hlen⟩ : p.rowKeys = [] ∧ p.slicerKeys = [] ∧ f.len = 0 := by
      simpa using hsome
    rw [slices_of_no_slicers hnoSlicers]
    have hdata := dataRows_of_no_keys (f := f) (s := s) ls hnoRows []
    cases hcount : s.rowCount 1 with
    | zero =>
      rw [hcount, List.take_zero] at hdata
      have hbacked : Report.Backed ⟨p.slicerKeys, [⟨[], (f.tableOf p ls []).finish s⟩]⟩ f p
          fun _ => True := by
        intro slice hslice row hrow
        obtain rfl := List.mem_singleton.mp hslice
        rw [hdata] at hrow
        exact absurd hrow List.not_mem_nil
      exact ⟨iff_of_true hbacked (.inr (.inr (.inr rfl))), fun hnot => absurd hbacked hnot⟩
    | succ n =>
      rw [hcount, List.take_succ_cons, List.take_nil] at hdata
      refine ⟨iff_of_false ?_ (by simp [hnoRows, hnoSlicers, hlen]), ?_⟩
      · intro hbacked
        obtain ⟨i, hi, -⟩ :=
          hbacked _ (List.mem_singleton_self _) _ (hdata ▸ List.mem_singleton_self _)
        rw [hlen] at hi
        exact Nat.not_lt_zero i hi
      · intro _
        refine ⟨_, rfl, rfl, _, hdata, rfl, ?_⟩
        intro cell hcell
        obtain ⟨l, -, rfl⟩ := List.mem_map.mp hcell
        exact entry?_of_no_rows hlen [] [] l

end Frame

namespace Spec

/-- **Which data rows of a report are backed by data.**  If there are row keys, or slicers, or a
group that passes the filter of groups, or if no row may be shown, each data row is backed by such a
group.  Otherwise the report has one data row, which shows nothing. -/
theorem report_backed_iff {ds ds' : Dataset} {s : Spec} {p : Plan} {r : Report}
    (hds : ds.base.WellFormed) (hplan : s.plan .here ds = (ds', .ok p))
    (hdiffer : (p.groupKeys ++ p.metricNames).Nodup) (hreport : ds.report s = (ds', .ok r)) :
    ∃ f t, ds'.frame = .ok f ∧ s.GroupTable p.groupKeys f t ∧
      (r.Backed t p (fun j => Passes s.having (t.row j)) ↔
        p.rowKeys ≠ [] ∨ p.slicerKeys ≠ [] ∨ (∃ j < t.len, Passes s.having (t.row j)) ∨
          s.rowCount 1 = 0) ∧
      (¬r.Backed t p (fun j => Passes s.having (t.row j)) → r.ShowsNothing) := by
  have hmetrics := metricNames_of_plan hplan
  obtain ⟨g, hgrouped, hpivot⟩ := Dataset.exists_grouped_of_report hplan hreport
  obtain ⟨-, hnames, -⟩ := wellFormed_of_grouped (hmetrics ▸ hdiffer) hgrouped
  obtain ⟨f, t, rows, hframe, htable, hrows, rfl, -⟩ :=
    exists_groupTable ((base_of_plan hplan).symm ▸ hds) (hmetrics ▸ hdiffer) hgrouped
  obtain ⟨r', hr', hbacked, hnothing⟩ := Frame.exists_pivot_backed (f := t.take rows) (s := s)
    (fun name hname => hnames ▸ List.mem_append_left _ hname)
    (fun name hname => hnames ▸ List.mem_append_right _ (hmetrics ▸ hname))
    (List.nodup_append.mp hdiffer).2.1
  obtain rfl : r' = r := Except.ok.inj (hr'.symm.trans hpivot)
  have hpass : 0 < (t.take rows).len ↔ ∃ j < t.len, Passes s.having (t.row j) := by
    show 0 < rows.length ↔ _
    rw [List.length_pos_iff_exists_mem]
    exact exists_congr hrows.mem_iff
  rw [Report.backed_take_iff hrows] at hbacked hnothing
  rw [hpass] at hbacked
  exact ⟨f, t, hframe, htable, hbacked, hnothing⟩

/-- The report of the one city that sold enough is backed by its group. -/
theorem report_backed_salesByCity : ∃ r t,
    (Dataset.ofFrame sales).report salesByCity = (.ofFrame sales, .ok r) ∧
    salesByCity.GroupTable ["city"] sales t ∧
    r.Backed t ⟨.here, ["city"], [], [], ["sum"]⟩ fun j => Passes salesByCity.having (t.row j) := by
  have hplan : salesByCity.plan .here (.ofFrame sales) =
      (.ofFrame sales, .ok ⟨.here, ["city"], [], [], ["sum"]⟩) := rfl
  have hgrouped : salesByCity.grouped (.ofFrame sales) ⟨.here, ["city"], [], [], ["sum"]⟩ =
      .ok ⟨[⟨"city", [.text "oslo"]⟩, ⟨"sum", [.int 7]⟩], 1⟩ := rfl
  obtain ⟨r, hreport⟩ : ∃ r, (Dataset.ofFrame sales).report salesByCity =
      (.ofFrame sales, .ok r) := by
    rw [Dataset.report_eq hplan hgrouped,
      Frame.pivot_eq_ok salesByCity (by decide) (by decide) (by decide)]
    exact ⟨_, rfl⟩
  obtain ⟨f, t, hframe, htable, hbacked, -⟩ :=
    report_backed_iff (by decide) hplan (by decide) hreport
  obtain rfl := Except.ok.inj ((Dataset.frame_ofFrame sales).symm.trans hframe)
  exact ⟨r, t, hreport, htable, hbacked.mpr (.inl (by decide))⟩

/-- The number of rows, if there are more than five. -/
def countAboveFive : Spec where
  having := some (.compare .gt (.column "rows") (.literal (.int 5)))

/-- **A data row without data.**  Of four rows the only group does not pass the filter of groups, so
that no group is left, but the report has a data row. -/
theorem report_shows_no_group :
    countAboveFive.plan .here (.ofFrame sales) =
      (.ofFrame sales, .ok ⟨.here, [], [], [], ["rows"]⟩) ∧
    ([] ++ ["rows"]).Nodup ∧
    countAboveFive.grouped (.ofFrame sales) ⟨.here, [], [], [], ["rows"]⟩ =
      .ok ⟨[⟨"rows", []⟩], 0⟩ ∧
    ∃ r, (Dataset.ofFrame sales).report countAboveFive = (.ofFrame sales, .ok r) ∧
      ∃ slice ∈ r.slices, slice.table.dataRows = [⟨.values [], [none]⟩] := by
  have hplan : countAboveFive.plan .here (.ofFrame sales) =
      (.ofFrame sales, .ok ⟨.here, [], [], [], ["rows"]⟩) := rfl
  have hgrouped : countAboveFive.grouped (.ofFrame sales) ⟨.here, [], [], [], ["rows"]⟩ =
      .ok ⟨[⟨"rows", []⟩], 0⟩ := rfl
  refine ⟨hplan, by decide, hgrouped, ?_⟩
  rw [Dataset.report_eq hplan hgrouped,
    Frame.pivot_eq_ok countAboveFive (by decide) (by decide) (by decide)]
  have hslice : [] ∈ sortKeys (Frame.tuples ⟨[⟨"rows", []⟩], 0⟩ []) := by
    rw [Frame.sortKeys_tuples_nil]
    exact List.mem_singleton_self _
  exact ⟨_, rfl, _, List.mem_map_of_mem hslice, Frame.dataRows_of_no_keys _ rfl []⟩

end Spec

end Crosstab
