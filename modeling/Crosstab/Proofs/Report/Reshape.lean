import Crosstab.Proofs.Report.Arranged

/-!
# What a report shows

Pivoting moves the cells of a table to other places and does nothing else to them.  `Table.Reshapes`
says it of one table of a report: its rows are the tuples of the row keys in its slice, its columns
are the measures with the tuples of the column keys, and a cell is there if and only if the pivoted
table has a row with these keys, whose cell it is.  `Report.Reshapes` says it of all slices.

That a table with a row for each group is reshaped, if nothing is cut off, is
`Frame.exists_reshapes_pivotWith`.  Sorting and totals do not disturb it: any sort permutes rows, and
the row of totals has a label of its own.
-/

namespace Crosstab

/-! ## Looking up -/

/-- A member is found by something in which members differ. -/
theorem find?_of_nodup_map {α β : Type} [BEq β] [LawfulBEq β] {view : α → β} {as : List α} {a : α}
    (h : (as.map view).Nodup) (ha : a ∈ as) : as.find? (fun b => view b == view a) = some a := by
  have hsome : (as.find? fun b => view b == view a).isSome = true :=
    List.find?_isSome.mpr ⟨a, ha, beq_self_eq_true _⟩
  obtain ⟨b, hb⟩ := Option.isSome_iff_exists.mp hsome
  have hview : (view b == view a) = true := List.find?_some (p := fun b => view b == view a) hb
  rw [hb, List.inj_on_of_nodup_map h (List.mem_of_find?_eq_some hb) ha (beq_iff_eq.mp hview)]

namespace Table

/-- The position of a column among columns of different names. -/
theorem columnIndex?_getElem {t : Table} (h : t.columns.Nodup) {i : Nat} {name : String}
    (hi : t.columns[i]? = some name) : t.columnIndex? name = some i := by
  obtain ⟨hlt, rfl⟩ := List.getElem?_eq_some_iff.mp hi
  refine List.findIdx?_eq_some_iff_getElem.mpr ⟨hlt, beq_self_eq_true _, ?_⟩
  intro j hj heq
  have hji : j = i := (List.Nodup.getElem_inj_iff h).mp (by simpa using heq)
  omega

/-- A row is found by its label among rows of different labels, however they are sorted. -/
theorem Arranges.row?_eq {t u : Table} {s : Spec} (h : t.Arranges u s) (htop : s.topN = none)
    (hlimit : s.limit = none) (hkeys : (t.rows.map (·.key)).Nodup) {r : Row} (hr : r ∈ t.rows) :
    u.row? r.key = some r := by
  obtain ⟨sorted, total, hperm, -, -, hrows⟩ := h.exists_rows
  have hfound : sorted.find? (fun q => q.key == r.key) = some r :=
    find?_of_nodup_map ((hperm.map _).nodup_iff.mpr hkeys) (hperm.mem_iff.mpr hr)
  rw [row?, hrows, ← hperm.length_eq, take_rowCount htop hlimit, List.find?_append, hfound]
  rfl

/-! ## What a table shows -/

/-- A table that shows the rows of one slice and nothing else. -/
structure Reshapes (t : Table) (f : Frame) (p : Plan) (slice : List Cell) : Prop where
  indexNames_eq : t.indexNames = p.rowKeys
  nodup_rows : (t.dataRows.map (·.key)).Nodup
  /-- The rows are the tuples of row keys in the slice, and one empty one if there are no keys. -/
  mem_rows_iff : ∀ key, key ∈ t.dataRows.map (·.key) ↔ ∃ row, key = .values row ∧
    (p.rowKeys = [] ∧ row = [] ∨
      ∃ i < f.len, f.tuple p.slicerKeys i = slice ∧ f.tuple p.rowKeys i = row)
  nodup_columns : t.columns.Nodup
  mem_columns_iff : ∀ name, name ∈ t.columns ↔
    ∃ m ∈ p.metricNames, ∃ column ∈ f.tuples p.columnKeys, name = flatName m column
  length_cells : ∀ r ∈ t.dataRows, r.cells.length = t.columns.length
  /-- A cell is that of the row with its keys, and missing where this is null or there is none. -/
  cell_iff : ∀ row, .values row ∈ t.dataRows.map (·.key) → ∀ m ∈ p.metricNames,
    ∀ column ∈ f.tuples p.columnKeys, ∀ v,
    t.cell? (.values row) (flatName m column) = some v ↔
      v ≠ .null ∧ ∃ i < f.len, (f.tuple p.rowKeys i = row ∧ f.tuple p.columnKeys i = column ∧
        f.tuple p.slicerKeys i = slice) ∧ f.cellAt m i = v

end Table

/-- A report that shows the rows of a table under their keys and nothing else. -/
structure Report.Reshapes (r : Report) (f : Frame) (p : Plan) : Prop where
  slicerNames_eq : r.slicerNames = p.slicerKeys
  nodup_slices : (r.slices.map (·.key)).Nodup
  /-- The slices are the tuples of slicers, and one empty one if there are no slicers. -/
  mem_slices_iff : ∀ key, key ∈ r.slices.map (·.key) ↔
    p.slicerKeys = [] ∧ key = [] ∨ ∃ i < f.len, f.tuple p.slicerKeys i = key
  tables : ∀ slice ∈ r.slices, slice.table.Reshapes f p slice.key

namespace Frame

variable {f : Frame} {p : Plan} {s : Spec} {ls : List Label} {slice : List Cell}

theorem mem_rows_tableOf {r : Row} : r ∈ (f.tableOf p ls slice).rows ↔
    ∃ row ∈ (f.take (f.rowsWith p.slicerKeys slice)).tuples p.rowKeys,
      (⟨.values row, ls.map (f.entry? p slice row)⟩ : Row) = r := by
  simp only [tableOf, List.mem_map, mem_sortKeys]

/-- The rows of a slice are no rows of totals. -/
theorem key_ne_total_of_mem_tableOf {r : Row} (hr : r ∈ (f.tableOf p ls slice).rows) :
    r.key ≠ .total := by
  obtain ⟨row, _, rfl⟩ := mem_rows_tableOf.mp hr
  exact nofun

/-- The rows of a slice have a cell for each column. -/
theorem length_cells_of_mem_tableOf {r : Row} (hr : r ∈ (f.tableOf p ls slice).rows) :
    r.cells.length = (f.tableOf p ls slice).columns.length := by
  obtain ⟨row, _, rfl⟩ := mem_rows_tableOf.mp hr
  show (ls.map _).length = (ls.map labelName).length
  rw [List.length_map, List.length_map]

theorem mem_keys_tableOf {key : RowKey} : key ∈ (f.tableOf p ls slice).rows.map (·.key) ↔
    ∃ row, key = .values row ∧ (p.rowKeys = [] ∧ row = [] ∨
      ∃ i < f.len, f.tuple p.slicerKeys i = slice ∧ f.tuple p.rowKeys i = row) := by
  simp only [List.mem_map, mem_rows_tableOf]
  constructor
  · rintro ⟨_, ⟨row, hrow, rfl⟩, rfl⟩
    exact ⟨row, rfl, (Selects.rowsWith f p.slicerKeys slice).mem_tuples_iff.mp hrow⟩
  · rintro ⟨row, rfl, hrow⟩
    exact ⟨_, ⟨row, (Selects.rowsWith f p.slicerKeys slice).mem_tuples_iff.mpr hrow, rfl⟩, rfl⟩

theorem nodup_keys_tableOf (f : Frame) (p : Plan) (ls : List Label) (slice : List Cell) :
    ((f.tableOf p ls slice).rows.map (·.key)).Nodup := by
  have hkeys : (f.tableOf p ls slice).rows.map (·.key) =
      (sortKeys ((f.take (f.rowsWith p.slicerKeys slice)).tuples p.rowKeys)).map .values := by
    rw [tableOf, List.map_map]
    rfl
  rw [hkeys]
  exact (nodup_sortKeys.mpr (nodup_tuples _ _)).map fun _ _ heq => RowKey.values.inj heq

/-- The cell of a row and a column of the table, which sorting and totals leave where it is. -/
theorem cell?_of_arranges {t : Table} (h : (f.tableOf p ls slice).Arranges t s)
    (htop : s.topN = none) (hlimit : s.limit = none) (hnames : (ls.map labelName).Nodup)
    {row : List Cell} (hrow : .values row ∈ (f.tableOf p ls slice).rows.map (·.key)) {l : Label}
    (hl : l ∈ ls) : t.cell? (.values row) (labelName l) = f.entry? p slice row l := by
  obtain ⟨r, hr, hkey⟩ := List.mem_map.mp hrow
  obtain ⟨row', _, rfl⟩ := mem_rows_tableOf.mp hr
  obtain rfl := RowKey.values.inj hkey
  have hfound : t.row? (.values row') = some ⟨.values row', ls.map (f.entry? p slice row')⟩ :=
    h.row?_eq htop hlimit (nodup_keys_tableOf f p ls slice) hr
  obtain ⟨i, hi⟩ := List.mem_iff_getElem?.mp hl
  have hindex : t.columnIndex? (labelName l) = some i := by
    refine Table.columnIndex?_getElem ?_ ?_
    · rw [h.columns_eq]
      exact hnames
    · rw [h.columns_eq]
      show (ls.map labelName)[i]? = _
      rw [List.getElem?_map, hi, Option.map_some]
  have hcell : Row.cellAt? ⟨.values row', ls.map (f.entry? p slice row')⟩ i =
      f.entry? p slice row' l := by
    rw [Row.cellAt?, List.getElem?_map, hi]
    rfl
  rw [Table.cell?, hfound, hindex]
  exact hcell

/-- Every slice is shown, if nothing of it is cut off. -/
theorem reshapes_of_arranges {t : Table} (h : (f.tableOf p (f.labels p) slice).Arranges t s)
    (htop : s.topN = none) (hlimit : s.limit = none)
    (hnames : ((f.labels p).map labelName).Nodup) (hdistinct : f.DistinctOn p.groupKeys) :
    t.Reshapes f p slice := by
  have hdata : t.dataRows.Perm (f.tableOf p (f.labels p) slice).rows :=
    h.dataRows_perm (fun r hr => key_ne_total_of_mem_tableOf hr) htop hlimit
  have hkeys : ∀ key, key ∈ t.dataRows.map (·.key) ↔
      key ∈ (f.tableOf p (f.labels p) slice).rows.map (·.key) := fun key => (hdata.map _).mem_iff
  refine ⟨h.indexNames_eq, ?_, ?_, ?_, ?_, ?_, ?_⟩
  · exact (hdata.map _).nodup_iff.mpr (nodup_keys_tableOf f p _ slice)
  · intro key
    rw [hkeys, mem_keys_tableOf]
  · rw [h.columns_eq]
    exact hnames
  · intro name
    rw [h.columns_eq]
    show name ∈ (f.labels p).map labelName ↔ _
    simp only [List.mem_map, Prod.exists, mem_labels, labelName]
    constructor
    · rintro ⟨m, column, ⟨hm, hcolumn⟩, rfl⟩
      exact ⟨m, hm, column, hcolumn, rfl⟩
    · rintro ⟨m, hm, column, hcolumn, rfl⟩
      exact ⟨m, column, ⟨hm, hcolumn⟩, rfl⟩
  · intro r hr
    rw [h.columns_eq]
    exact length_cells_of_mem_tableOf (hdata.mem_iff.mp hr)
  · intro row hrow m hm column hcolumn v
    have hl : (m, column) ∈ f.labels p := mem_labels.mpr ⟨hm, hcolumn⟩
    have hcell := cell?_of_arranges h htop hlimit hnames ((hkeys _).mp hrow) hl
    rw [← show labelName (m, column) = flatName m column from rfl, hcell,
      entry?_eq_some_iff hdistinct]
    refine and_congr_right fun _ => exists_congr fun i => and_congr_right fun _ => ?_
    rw [hasKeys_iff, and_rotate, and_assoc]

theorem reshapes_of_arranged {r : Report} (h : r.Arranged f p (f.labels p) s)
    (hp : f.Pivotable p) (htop : s.topN = none) (hlimit : s.limit = none) : r.Reshapes f p where
  slicerNames_eq := h.slicerNames_eq
  nodup_slices := h.keys_perm.nodup_iff.mpr (nodup_tuples f p.slicerKeys)
  mem_slices_iff := by
    intro key
    rw [h.keys_perm.mem_iff, mem_tuples_iff]
  tables := fun slice hslice => reshapes_of_arranges (h.tables slice hslice) htop hlimit
    hp.nodup_labelNames hp.distinct

/-- **Pivoting reshapes.**  Where no two rows have one tuple of keys and all names of columns
differ, a table is pivoted, with whatever sort, and the report shows each of its rows at its keys and
nothing else.  There is no report only if the sort stops, because some of the cells that are sorted
are not totally ordered. -/
theorem exists_reshapes_pivotWith {ε : Type} (σ : Sorter ε) (h : f.Pivotable p)
    (htop : s.topN = none) (hlimit : s.limit = none) :
    (∃ r, f.pivotWith σ p s = .ok r ∧ r.Reshapes f p) ∨
      ¬f.Ordered p s ∧ ∃ e, f.pivotWith σ p s = .error (.inl e) := by
  have houtputs := outputColumns_eq_ok h.mem_columns h.nodup_labelNames
  have hls : ∀ l ∈ f.labels p, l.1 ∈ p.metricNames := fun l hl => (mem_labels.mp hl).1
  refine (pivotWith_arranged σ h.mem_keys h.mem_metrics houtputs hls).imp_left ?_
  rintro ⟨r, hr, harranged⟩
  exact ⟨r, hr, reshapes_of_arranged harranged h htop hlimit⟩

/-- Sums of two cities in two years, one of which one city is without. -/
def sumsByCity : Frame :=
  ⟨[⟨"kind", [.text "new", .text "new", .text "old"]⟩,
    ⟨"city", [.text "oslo", .text "bonn", .text "oslo"]⟩, ⟨"year", [.int 1, .int 2, .int 1]⟩,
    ⟨"sum", [.int 7, .null, .int 5]⟩], 3⟩

/-- The keys of the cities are of one kind each, so a sort has no reason to stop. -/
theorem ordered_sumsByCity {s : Spec} (hsort : s.sortBy = []) :
    sumsByCity.Ordered ⟨.here, ["city"], ["year"], ["kind"], ["sum"]⟩ s where
  slicers := by
    intro name hname
    obtain rfl := List.mem_singleton.mp hname
    exact orderedOn_of_oneKind (by decide)
  rows := by
    intro name hname
    obtain rfl := List.mem_singleton.mp hname
    exact orderedOn_of_oneKind (by decide)
  metrics hne := absurd hsort hne

/-- Three rows under all three kinds of keys, one of them without a sum, with a sort that stops as
soon as it may. -/
theorem exists_reshapes_pivotWith_sumsByCity :
    ∃ r, sumsByCity.pivotWith .halting ⟨.here, ["city"], ["year"], ["kind"], ["sum"]⟩
        { totals := true } = .ok r ∧
      r.Reshapes sumsByCity ⟨.here, ["city"], ["year"], ["kind"], ["sum"]⟩ := by
  have hpivotable : sumsByCity.Pivotable ⟨.here, ["city"], ["year"], ["kind"], ["sum"]⟩ :=
    ⟨by decide, by decide, by decide, by decide, by decide⟩
  refine (exists_reshapes_pivotWith .halting hpivotable rfl rfl).resolve_right ?_
  exact fun hstops => hstops.1 (ordered_sumsByCity rfl)

end Frame

end Crosstab
