import Crosstab.Proofs.Report.Ordered

/-!
# What every sort keeps

A sort may put slices and rows in an order of its own where their cells are not totally ordered, but
it neither adds nor loses any.  So, however it is sorted, a report that is made has a slice for each
tuple of slicers (`Report.Arranged`), whose table has rows of the slice, as many as the limits allow,
and a row of totals if it is asked for (`Table.Arranges`).

No report is made only where the sort stops, and it cannot stop where all that is sorted is ordered
(`Frame.pivotWith_arranged`).
-/

namespace Crosstab

/-- How many of some rows are kept: as many as the limits allow that are set. -/
def Spec.rowCount (s : Spec) (rows : Nat) : Nat := (s.topN.toList ++ s.limit.toList).foldl min rows

namespace Table

variable {t u : Table} {s : Spec} {rows sorted : List Row}

/-! ## Sorting, cutting and totals -/

theorem sortRows_perm (t : Table) (keys : List SortKey) : (t.sortRows keys).Perm t.rows :=
  stably_perm _ _

/-- The rows that are kept are the first ones. -/
theorem firstRows_firstRows (s : Spec) (rows : List Row) :
    firstRows s.limit (firstRows s.topN rows) = rows.take (s.rowCount rows.length) := by
  have hcut : ∀ n, rows.take (min rows.length n) = rows.take n := by
    intro n
    rw [Nat.min_comm, ← List.take_eq_take_min]
  unfold Spec.rowCount
  cases s.topN with
  | none =>
    cases s.limit with
    | none => exact (List.take_length).symm
    | some n => exact (hcut n).symm
  | some m =>
    cases s.limit with
    | none => exact (hcut m).symm
    | some n =>
      show (rows.take m).take n = rows.take (min (min rows.length m) n)
      rw [List.take_take, Nat.min_assoc, hcut, Nat.min_comm]

/-- Without limits all rows are kept. -/
theorem take_rowCount (htop : s.topN = none) (hlimit : s.limit = none) (rows : List Row) :
    rows.take (s.rowCount rows.length) = rows := by
  rw [← firstRows_firstRows, htop, hlimit]
  rfl

theorem rows_cut (t : Table) (s : Spec) (h : sorted.length = t.rows.length) :
    (t.cut s sorted).rows =
      sorted.take (s.rowCount t.rows.length) ++ if s.totals then [t.totals] else [] := by
  rw [← h, ← firstRows_firstRows]
  rfl

theorem rows_finish (t : Table) (s : Spec) :
    (t.finish s).rows = (t.sortRows s.sortBy).take (s.rowCount t.rows.length) ++
      if s.totals then [t.totals] else [] :=
  t.rows_cut s (t.sortRows_perm s.sortBy).length_eq

/-- Data rows are the rows in front of the totals. -/
theorem dataRows_of_rows {kept : List Row} {total : Row} {totals : Bool}
    (hkept : ∀ r ∈ kept, r.key ≠ .total) (htotal : total.key = .total)
    (hrows : u.rows = kept ++ if totals then [total] else []) : u.dataRows = kept := by
  have hdata : kept.filter (fun r => r.key != .total) = kept :=
    List.filter_eq_self.mpr fun r hr => bne_iff_ne.mpr (hkept r hr)
  have hlast : (if totals then [total] else []).filter (fun r => r.key != .total) = [] := by
    split
    · simp [htotal]
    · rfl
  rw [dataRows, hrows, List.filter_append, hdata, hlast, List.append_nil]

theorem dataRows_finish (t : Table) (s : Spec) (hdata : ∀ r ∈ t.rows, r.key ≠ .total) :
    (t.finish s).dataRows = (t.sortRows s.sortBy).take (s.rowCount t.rows.length) := by
  refine dataRows_of_rows ?_ rfl (t.rows_finish s)
  intro r hr
  exact hdata r ((t.sortRows_perm _).subset (List.mem_of_mem_take hr))

/-! ## Tables that are arranged -/

/-- The table `u` shows rows of the table `t`: the first ones in some order, as many as the limits
allow, and a row of totals if it is asked for. -/
structure Arranges (t u : Table) (s : Spec) : Prop where
  indexNames_eq : u.indexNames = t.indexNames
  columns_eq : u.columns = t.columns
  exists_rows : ∃ (sorted : List Row) (total : Row), sorted.Perm t.rows ∧ total.key = .total ∧
    total.cells.length = t.columns.length ∧
    u.rows = sorted.take (s.rowCount t.rows.length) ++ if s.totals then [total] else []

theorem arranges_cut (t : Table) (s : Spec) (hrows : rows.Perm t.rows) (hsorted : sorted.Perm rows) :
    t.Arranges (({ t with rows := rows } : Table).cut s sorted) s where
  indexNames_eq := rfl
  columns_eq := rfl
  exists_rows := by
    refine ⟨sorted, ({ t with rows := rows } : Table).totals, hsorted.trans hrows, rfl, ?_, ?_⟩
    · rw [totals, List.length_map, List.length_range]
    · rw [rows_cut _ s hsorted.length_eq, hrows.length_eq]

namespace Arranges

/-- The data rows are rows of the table. -/
theorem exists_dataRows (h : t.Arranges u s) (hdata : ∀ r ∈ t.rows, r.key ≠ .total) :
    ∃ sorted : List Row, sorted.Perm t.rows ∧ u.dataRows = sorted.take (s.rowCount t.rows.length) := by
  obtain ⟨sorted, total, hperm, htotal, -, hrows⟩ := h.exists_rows
  refine ⟨sorted, hperm, dataRows_of_rows ?_ htotal hrows⟩
  intro r hr
  exact hdata r (hperm.subset (List.mem_of_mem_take hr))

/-- A row is one of the table or the row of totals. -/
theorem mem_rows (h : t.Arranges u s) {r : Row} (hr : r ∈ u.rows) :
    r ∈ t.rows ∨ s.totals = true ∧ r.key = .total ∧ r.cells.length = t.columns.length := by
  obtain ⟨sorted, total, hperm, htotal, hlength, hrows⟩ := h.exists_rows
  rw [hrows, List.mem_append] at hr
  rcases hr with hkept | hlast
  · exact .inl (hperm.subset (List.mem_of_mem_take hkept))
  · split at hlast
    · next htotals =>
      obtain rfl := List.mem_singleton.mp hlast
      exact .inr ⟨htotals, htotal, hlength⟩
    · exact absurd hlast List.not_mem_nil

/-- The row of totals is the last one. -/
theorem rows_eq_of_totals (h : t.Arranges u s) (hdata : ∀ r ∈ t.rows, r.key ≠ .total)
    (htotals : s.totals = true) : ∃ total : Row, total.key = .total ∧ u.rows = u.dataRows ++ [total] := by
  obtain ⟨sorted, total, hperm, htotal, -, hrows⟩ := h.exists_rows
  refine ⟨total, htotal, ?_⟩
  rw [dataRows_of_rows (fun r hr => hdata r (hperm.subset (List.mem_of_mem_take hr))) htotal hrows,
    hrows, if_pos htotals]

/-- Rows of different labels stay so, and no other row has the label of the totals. -/
theorem nodup_keys (h : t.Arranges u s) (hdata : ∀ r ∈ t.rows, r.key ≠ .total)
    (hnodup : (t.rows.map (·.key)).Nodup) : (u.rows.map (·.key)).Nodup := by
  obtain ⟨sorted, total, hperm, htotal, -, hrows⟩ := h.exists_rows
  have hsorted : (sorted.map (·.key)).Nodup := (hperm.map _).nodup_iff.mpr hnodup
  have hkept : ((sorted.take (s.rowCount t.rows.length)).map (·.key)).Nodup :=
    ((List.take_sublist _ sorted).map _).nodup hsorted
  rw [hrows, List.map_append]
  split
  · refine hkept.append (List.nodup_singleton _) (List.disjoint_singleton.mpr ?_)
    rintro hmem
    obtain ⟨r, hr, hkey⟩ := List.mem_map.mp hmem
    exact hdata r (hperm.subset (List.mem_of_mem_take hr)) (hkey.trans htotal)
  · rwa [List.map_nil, List.append_nil]

/-- Without limits no data row is missing. -/
theorem dataRows_perm (h : t.Arranges u s) (hdata : ∀ r ∈ t.rows, r.key ≠ .total)
    (htop : s.topN = none) (hlimit : s.limit = none) : u.dataRows.Perm t.rows := by
  obtain ⟨sorted, hperm, hrows⟩ := h.exists_dataRows hdata
  rw [hrows, ← hperm.length_eq, take_rowCount htop hlimit]
  exact hperm

end Arranges

end Table

/-! ## Reports that are arranged -/

/-- The report of a table with columns for some labels, its slices and their rows in some order. -/
structure Report.Arranged (r : Report) (f : Frame) (p : Plan) (ls : List Label) (s : Spec) :
    Prop where
  slicerNames_eq : r.slicerNames = p.slicerKeys
  keys_perm : (r.slices.map (·.key)).Perm (f.tuples p.slicerKeys)
  tables : ∀ slice ∈ r.slices, (f.tableOf p ls slice.key).Arranges slice.table s

namespace Frame

variable {ε : Type} {σ : Sorter ε} {f : Frame} {p : Plan} {ls : List Label} {s : Spec}

theorem arranges_of_sliceWith {key : List Cell} {slice : Slice}
    (h : f.sliceWith σ p ls s key = .ok slice) :
    slice.key = key ∧ (f.tableOf p ls key).Arranges slice.table s := by
  obtain ⟨groups, hgroups, h⟩ := bind_eq_ok_iff.mp h
  obtain ⟨table, htable, h⟩ := bind_eq_ok_iff.mp h
  obtain ⟨sorted, hsorted, htable⟩ := bind_eq_ok_iff.mp htable
  obtain rfl := pure_eq_ok_iff.mp h
  obtain rfl := pure_eq_ok_iff.mp htable
  have hperm : (f.tableIn p ls key groups).rows.Perm (f.tableOf p ls key).rows := by
    rw [← tableIn_stably]
    exact ((σ.perm hgroups).trans (stably_perm _ _).symm).map _
  exact ⟨rfl, (f.tableOf p ls key).arranges_cut s hperm (σ.perm hsorted)⟩

/-- **Sorting loses nothing.** -/
theorem arranged_of_reportWith {r : Report} (h : f.reportWith σ p ls s = .ok r) :
    r.Arranged f p ls s := by
  obtain ⟨groups, hgroups, h⟩ := bind_eq_ok_iff.mp h
  obtain ⟨slices, hslices, h⟩ := bind_eq_ok_iff.mp h
  obtain rfl := pure_eq_ok_iff.mp h
  refine ⟨rfl, ?_, ?_⟩
  · have hkeys : slices.map (·.key) = groups.map Prod.fst :=
      map_eq_map_of_mapM_eq_ok (fun _ _ hslice => (arranges_of_sliceWith hslice).1) hslices
    have hfirst : (f.sliceGroups p).map Prod.fst = f.tuples p.slicerKeys := by
      rw [sliceGroups, List.map_map]
      exact List.map_id _
    show (slices.map (·.key)).Perm _
    rw [hkeys, ← hfirst]
    exact (σ.perm hgroups).map _
  · intro slice hslice
    obtain ⟨i, hi⟩ := List.mem_iff_getElem?.mp hslice
    obtain ⟨g, -, hstep⟩ := getElem?_of_mapM_eq_ok hslices hi
    obtain ⟨hkey, htable⟩ := arranges_of_sliceWith hstep
    rwa [hkey]

/-- **What any sort makes of a table.**  A table with columns for all keys and measures is pivoted to
an arranged report, unless the sort stops, which it cannot where all that is sorted is ordered. -/
theorem pivotWith_arranged (σ : Sorter ε) (hkeys : ∀ name ∈ p.groupKeys, name ∈ f.names)
    (hmetrics : ∀ name ∈ p.metricNames, name ∈ f.names)
    (houtputs : OutputColumn.all f (p.metricNames.map f.metricColumn) p.columnKeys =
      .ok (ls.map f.output)) (hls : ∀ l ∈ ls, l.1 ∈ p.metricNames) :
    (∃ r, f.pivotWith σ p s = .ok r ∧ r.Arranged f p ls s) ∨
      ¬f.Ordered p s ∧ ∃ e, f.pivotWith σ p s = .error (.inl e) := by
  rw [pivotWith_eq hkeys hmetrics houtputs]
  cases hreport : f.reportWith σ p ls s with
  | ok r => exact .inl ⟨r, rfl, arranged_of_reportWith hreport⟩
  | error e =>
    refine .inr ⟨fun hordered => ?_, e, rfl⟩
    rw [(hordered.sortsAll σ hls).reportWith_eq] at hreport
    cases hreport

end Frame

end Crosstab
