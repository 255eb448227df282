import Crosstab.Proofs.Report.Columns

/-!
# Looking up in reports

A lookup in a report takes the first slice, row or column that matches.  It is the only one: in what
pivoting gives no two slices have one key, no two rows of a table one label, and no two columns one
name, and every row has a cell for each column (`Report.WellFormed`).

A table is well formed before its last step, since rows are labelled by different tuples and
repeated names of columns are left out, whatever the cells are.  Sorting permutes its rows, cutting
drops some of them, and the row of totals has a label of its own, so it is well formed afterwards
(`Table.WellFormed.arranges`).

What this does not promise is that there is a report.  Cells of several kinds need not be totally
ordered, and a sort may notice and stop: `Frame.pivotWith_halts_mixedCodes` is a table for which one
does.
-/

namespace Crosstab

namespace Table

/-! ## Well-formed tables -/

/-- A table in which labels and names of columns are different, and rows are as long as they say;
a row of totals is there if it is asked for, and is the last row. -/
structure WellFormed (t : Table) (totals : Bool) : Prop where
  nodup_columns : t.columns.Nodup
  nodup_keys : (t.rows.map (·.key)).Nodup
  length_key : ∀ r ∈ t.rows, ∀ key, r.key = .values key → key.length = t.indexNames.length
  length_cells : ∀ r ∈ t.rows, r.cells.length = t.columns.length
  exists_total_iff : (∃ r ∈ t.rows, r.key = .total) ↔ totals = true
  total_last : ∀ r ∈ t.rows, r.key = .total → t.rows = t.dataRows ++ [r]

/-- The cell stands in the row of a label and the column of a name. -/
def HoldsAt (t : Table) (key : RowKey) (column : String) (v : Cell) : Prop :=
  ∃ r ∈ t.rows, r.key = key ∧ ∃ i : Nat, t.columns[i]? = some column ∧ r.cells[i]? = some (some v)

namespace WellFormed

variable {t : Table} {totals : Bool}

/-- The row that is found is the only one with its label. -/
theorem row?_eq_some_iff (h : t.WellFormed totals) {key : RowKey} {r : Row} :
    t.row? key = some r ↔ r ∈ t.rows ∧ r.key = key := by
  constructor
  · intro hfound
    have hkey := List.find?_some (p := fun r : Row => r.key == key) hfound
    exact ⟨List.mem_of_find?_eq_some hfound, beq_iff_eq.mp hkey⟩
  · rintro ⟨hr, rfl⟩
    exact find?_of_nodup_map h.nodup_keys hr

/-- The cell that is found is the only one in its row and column. -/
theorem cell?_eq_some_iff (h : t.WellFormed totals) {key : RowKey} {column : String} {v : Cell} :
    t.cell? key column = some v ↔ t.HoldsAt key column v := by
  constructor
  · intro hcell
    obtain ⟨r, hrow, hrest⟩ := Option.bind_eq_some_iff.mp hcell
    obtain ⟨i, hindex, hv⟩ := Option.bind_eq_some_iff.mp hrest
    obtain ⟨hr, hkey⟩ := h.row?_eq_some_iff.mp hrow
    obtain ⟨hlt, hi, -⟩ := List.findIdx?_eq_some_iff_getElem.mp hindex
    refine ⟨r, hr, hkey, i, ?_, Option.join_eq_some_iff.mp hv⟩
    exact List.getElem?_eq_some_iff.mpr ⟨hlt, beq_iff_eq.mp hi⟩
  · rintro ⟨r, hr, hkey, i, hi, hv⟩
    rw [cell?, h.row?_eq_some_iff.mpr ⟨hr, hkey⟩, columnIndex?_getElem h.nodup_columns hi]
    exact Option.join_eq_some_iff.mpr hv

theorem key_ne_total (h : t.WellFormed false) {r : Row} (hr : r ∈ t.rows) : r.key ≠ .total :=
  fun hkey => absurd (h.exists_total_iff.mp ⟨r, hr, hkey⟩) Bool.false_ne_true

/-- **The last step keeps tables well formed**, whatever the sort. -/
theorem arranges (h : t.WellFormed false) {u : Table} {s : Spec} (harranges : t.Arranges u s) :
    u.WellFormed s.totals where
  nodup_columns := by
    rw [harranges.columns_eq]
    exact h.nodup_columns
  nodup_keys := harranges.nodup_keys (fun _ hr => h.key_ne_total hr) h.nodup_keys
  length_key := by
    intro r hr key hkey
    rw [harranges.indexNames_eq]
    rcases harranges.mem_rows hr with hr | ⟨-, htotal, -⟩
    · exact h.length_key r hr key hkey
    · rw [htotal] at hkey
      cases hkey
  length_cells := by
    intro r hr
    rw [harranges.columns_eq]
    rcases harranges.mem_rows hr with hr | ⟨-, -, hlength⟩
    · exact h.length_cells r hr
    · exact hlength
  exists_total_iff := by
    constructor
    · rintro ⟨r, hr, hkey⟩
      rcases harranges.mem_rows hr with hr | ⟨htotals, -, -⟩
      · exact absurd hkey (h.key_ne_total hr)
      · exact htotals
    · intro htotals
      obtain ⟨total, htotal, hrows⟩ :=
        harranges.rows_eq_of_totals (fun _ hr => h.key_ne_total hr) htotals
      refine ⟨total, ?_, htotal⟩
      rw [hrows]
      exact List.mem_append_right _ (List.mem_singleton_self _)
  total_last := by
    intro r hr hkey
    rcases harranges.mem_rows hr with hdata | ⟨htotals, -, -⟩
    · exact absurd hkey (h.key_ne_total hdata)
    · obtain ⟨total, -, hrows⟩ :=
        harranges.rows_eq_of_totals (fun _ hr => h.key_ne_total hr) htotals
      -- data rows are those with no label of totals, so this one is the last
      rw [hrows, List.mem_append] at hr
      rcases hr with hdata | hlast
      · exact absurd hkey (bne_iff_ne.mp (List.mem_filter.mp hdata).2)
      · rwa [List.mem_singleton.mp hlast]

end WellFormed

end Table

/-! ## Well-formed reports -/

/-- A report with different slices, exactly one of them without slicers, whose tables are well
formed and have the same columns. -/
structure Report.WellFormed (r : Report) (p : Plan) (totals : Bool) : Prop where
  nodup_keys : (r.slices.map (·.key)).Nodup
  keys_of_no_slicers : p.slicerKeys = [] → r.slices.map (·.key) = [[]]
  same_columns : ∀ slice ∈ r.slices, ∀ slice' ∈ r.slices,
    slice.table.columns = slice'.table.columns
  indexNames_eq : ∀ slice ∈ r.slices, slice.table.indexNames = p.rowKeys
  tables : ∀ slice ∈ r.slices, slice.table.WellFormed totals

/-- The table that is found is the only one with its key. -/
theorem Report.WellFormed.table?_eq_some_iff {r : Report} {p : Plan} {totals : Bool}
    (h : r.WellFormed p totals) {key : List Cell} {t : Table} :
    r.table? key = some t ↔ ∃ slice ∈ r.slices, slice.key = key ∧ slice.table = t := by
  constructor
  · intro hfound
    obtain ⟨slice, hslice, rfl⟩ := Option.map_eq_some_iff.mp hfound
    have hkey := List.find?_some (p := fun s : Slice => s.key == key) hslice
    exact ⟨slice, List.mem_of_find?_eq_some hslice, beq_iff_eq.mp hkey, rfl⟩
  · rintro ⟨slice, hslice, rfl, rfl⟩
    rw [table?, find?_of_nodup_map h.nodup_keys hslice]
    rfl

/-! ## What pivoting gives -/

namespace Frame

variable {f : Frame} {p : Plan} {ls : List Label}

/-- The table of a slice is well formed, whatever the cells of its keys are. -/
theorem wellFormed_tableOf (hnames : (ls.map labelName).Nodup) (slice : List Cell) :
    (f.tableOf p ls slice).WellFormed false where
  nodup_columns := hnames
  nodup_keys := nodup_keys_tableOf f p ls slice
  length_key := by
    intro r hr key hkey
    obtain ⟨row, hrow, rfl⟩ := mem_rows_tableOf.mp hr
    obtain rfl := RowKey.values.inj hkey
    exact length_of_mem_tuples hrow
  length_cells := fun r hr => length_cells_of_mem_tableOf hr
  exists_total_iff := by
    refine iff_of_false ?_ Bool.false_ne_true
    rintro ⟨r, hr, hkey⟩
    exact key_ne_total_of_mem_tableOf hr hkey
  total_last := fun r hr hkey => absurd hkey (key_ne_total_of_mem_tableOf hr)

/-- The columns that are shown have different names, and measures of the plan. -/
theorem exists_nodup_outputs (hkeys : ∀ name ∈ p.columnKeys, name ∈ f.names)
    (hmetrics : p.metricNames.Nodup) :
    ∃ ls : List Label, OutputColumn.all f (p.metricNames.map f.metricColumn) p.columnKeys =
        .ok (ls.map f.output) ∧ (ls.map labelName).Nodup ∧ ∀ l ∈ ls, l.1 ∈ p.metricNames := by
  by_cases hsome : p.columnKeys = []
  · have hnames : ((f.labels p).map labelName).Nodup := by
      have hlabels : (f.labels p).map labelName = p.metricNames := by
        rw [labels, hsome, List.map_map]
        exact (List.map_congr_left fun m _ => flatName_nil m).trans (List.map_id _)
      rwa [hlabels]
    exact ⟨f.labels p, outputColumns_eq_ok hkeys hnames, hnames, fun l hl => (mem_labels.mp hl).1⟩
  · obtain ⟨ls, houtputs, hnames, hmem⟩ := exists_outputs hkeys hsome
    exact ⟨ls, houtputs, hnames, fun l hl => (of_firstLabel? ((hmem l).mp hl)).1⟩

theorem sortKeys_tuples_nil (f : Frame) : sortKeys (f.tuples []) = [[]] := by
  have htuples : f.tuples [] = [[]] := rfl
  rw [htuples, sortKeys, List.mergeSort_singleton]

theorem wellFormed_of_arranged {r : Report} {s : Spec} (h : r.Arranged f p ls s)
    (hnames : (ls.map labelName).Nodup) : r.WellFormed p s.totals where
  nodup_keys := h.keys_perm.nodup_iff.mpr (nodup_tuples f p.slicerKeys)
  keys_of_no_slicers := by
    intro hnone
    have hperm := h.keys_perm
    rw [hnone] at hperm
    exact List.perm_singleton.mp hperm
  same_columns := by
    intro slice hslice slice' hslice'
    rw [(h.tables slice hslice).columns_eq, (h.tables slice' hslice').columns_eq]
    rfl
  indexNames_eq slice hslice := (h.tables slice hslice).indexNames_eq
  tables slice hslice := (wellFormed_tableOf hnames slice.key).arranges (h.tables slice hslice)

end Frame

theorem Report.WellFormed.exists_single {r : Report} {p : Plan} {totals : Bool}
    (h : r.WellFormed p totals) (hnone : p.slicerKeys = []) :
    ∃ t, r.single = .ok t ∧ r.table? [] = some t := by
  obtain ⟨slice, hslices, hkey⟩ : ∃ slice, r.slices = [slice] ∧ slice.key = [] := by
    simpa [List.map_eq_singleton_iff] using h.keys_of_no_slicers hnone
  refine ⟨slice.table, ?_, h.table?_eq_some_iff.mpr ⟨slice, ?_, hkey, rfl⟩⟩
  · rw [single, hslices]
  · rw [hslices]
    exact List.mem_singleton_self slice

namespace Frame

variable {f : Frame} {p : Plan} {s : Spec}

/-- **Lookups in a report are unambiguous.**  A table with columns for all keys and measures is
pivoted, with whatever sort.  The report is well formed whatever the cells are, and what a lookup
finds in it is the only table or the only cell that matches.  There is no report only if the sort
stops, because some of the cells that are sorted are not totally ordered. -/
theorem exists_wellFormed_pivotWith {ε : Type} (σ : Sorter ε)
    (hkeys : ∀ name ∈ p.groupKeys, name ∈ f.names)
    (hmetrics : ∀ name ∈ p.metricNames, name ∈ f.names) (hnodup : p.metricNames.Nodup) :
    (∃ r, f.pivotWith σ p s = .ok r ∧ r.WellFormed p s.totals ∧
      (∀ key t, r.table? key = some t ↔ ∃ slice ∈ r.slices, slice.key = key ∧ slice.table = t) ∧
      (∀ slice ∈ r.slices, ∀ key column v,
        slice.table.cell? key column = some v ↔ slice.table.HoldsAt key column v) ∧
      (p.slicerKeys = [] → ∃ t, r.single = .ok t ∧ r.table? [] = some t)) ∨
      ¬f.Ordered p s ∧ ∃ e, f.pivotWith σ p s = .error (.inl e) := by
  have hcolumns : ∀ name ∈ p.columnKeys, name ∈ f.names := fun name hname =>
    hkeys name (p.columnKeys_subset hname)
  obtain ⟨ls, houtputs, hnames, hls⟩ := exists_nodup_outputs hcolumns hnodup
  refine (pivotWith_arranged σ hkeys hmetrics houtputs hls).imp_left ?_
  rintro ⟨r, hr, harranged⟩
  have hwell := wellFormed_of_arranged harranged hnames
  refine ⟨r, hr, hwell, ?_, ?_, ?_⟩
  · intro key t
    exact hwell.table?_eq_some_iff
  · intro slice hslice key column v
    exact (hwell.tables slice hslice).cell?_eq_some_iff
  · exact hwell.exists_single

/-- The best row of each kind of city and the totals of all of them. -/
theorem exists_wellFormed_pivotWith_sumsByCity :
    ∃ r, sumsByCity.pivotWith .halting ⟨.here, ["city"], ["year"], ["kind"], ["sum"]⟩
        { topN := some 1, totals := true } = .ok r ∧
      r.WellFormed ⟨.here, ["city"], ["year"], ["kind"], ["sum"]⟩ true ∧
      (∀ key t, r.table? key = some t ↔ ∃ slice ∈ r.slices, slice.key = key ∧ slice.table = t) ∧
      (∀ slice ∈ r.slices, ∀ key column v,
        slice.table.cell? key column = some v ↔ slice.table.HoldsAt key column v) ∧
      ((⟨.here, ["city"], ["year"], ["kind"], ["sum"]⟩ : Plan).slicerKeys = [] →
        ∃ t, r.single = .ok t ∧ r.table? [] = some t) := by
  refine (exists_wellFormed_pivotWith .halting (by decide) (by decide) (by decide)).resolve_right ?_
  exact fun hstops => hstops.1 (ordered_sumsByCity rfl)

/-! ### A report that is not made -/

/-- Codes that are words, days, and a text that reads as a day. -/
def mixedCodes : Frame :=
  ⟨[⟨"code", [.text "zinc", .text "2030-01-01", .text "brass", .text "copper", .text "gold",
      .text "iron", .text "lead", .text "nickel", .text "silver", .text "steel", .text "tin",
      .date ⟨2021, 1, 1, rfl⟩, .date ⟨2021, 1, 2, rfl⟩, .date ⟨2021, 1, 3, rfl⟩,
      .date ⟨2021, 1, 4, rfl⟩, .date ⟨2021, 1, 5, rfl⟩, .date ⟨2021, 1, 6, rfl⟩,
      .date ⟨2021, 1, 7, rfl⟩, .date ⟨2021, 1, 8, rfl⟩, .date ⟨2021, 1, 9, rfl⟩,
      .date ⟨2021, 1, 10, rfl⟩, .date ⟨2021, 1, 11, rfl⟩]⟩,
    ⟨"n", (List.range 22).map fun i => .int (.ofNat (i + 1))⟩], 22⟩

/-- Codes label the rows. -/
def codePlan : Plan := ⟨.here, ["code"], [], [], ["n"]⟩

/-- The codes go round in a circle: a day is before the text that reads as a later one, which is
before a word, which is before all days. -/
theorem not_totalOn_mixedCodes : ¬TotalOn groupOrder (mixedCodes.rowGroups codePlan []) := by
  intro htotal
  have hle := htotal.trans ([.date ⟨2021, 1, 1, rfl⟩], [11]) (by decide +kernel)
    ([.text "2030-01-01"], [1]) (by decide +kernel) ([.text "zinc"], [0]) (by decide +kernel)
    (by decide +kernel) (by decide +kernel)
  revert hle
  decide +kernel

/-- **A sort may stop.**  All columns are there, and there is one measure, but there is no report,
since the sort notices that the codes have no order. -/
theorem pivotWith_halts_mixedCodes :
    (∀ name ∈ codePlan.groupKeys, name ∈ mixedCodes.names) ∧
      (∀ name ∈ codePlan.metricNames, name ∈ mixedCodes.names) ∧ codePlan.metricNames.Nodup ∧
      mixedCodes.pivotWith .halting codePlan {} = .error (.inl ()) := by
  have hkeys : ∀ name ∈ codePlan.groupKeys, name ∈ mixedCodes.names := by decide
  have hmetrics : ∀ name ∈ codePlan.metricNames, name ∈ mixedCodes.names := by decide
  have hnodup : codePlan.metricNames.Nodup := by decide
  refine ⟨hkeys, hmetrics, hnodup, ?_⟩
  obtain ⟨ls, houtputs, -, -⟩ := exists_nodup_outputs (p := codePlan)
    (fun name hname => hkeys name (codePlan.columnKeys_subset hname)) hnodup
  have hrows := Sorter.halting_sort_of_not_totalOn (by decide +kernel) not_totalOn_mixedCodes
  have hslice : mixedCodes.sliceWith .halting codePlan ls {} [] = .error () := by
    rw [sliceWith, hrows]
    rfl
  -- without slicers there is one slice, which is no work to sort
  have hslices : Sorter.halting.sort groupOrder (mixedCodes.sliceGroups codePlan) =
      .ok [([], mixedCodes.rowsWith [] [])] := by
    rw [Sorter.halting_sort_of_length_le (by decide)]
    exact congrArg Except.ok (stably_singleton groupOrder _)
  have hreport : mixedCodes.reportWith .halting codePlan ls {} = .error () := by
    rw [reportWith, hslices, ok_bind, List.mapM_cons, hslice]
    rfl
  rw [pivotWith_eq hkeys hmetrics houtputs, hreport]
  rfl

end Frame

end Crosstab
