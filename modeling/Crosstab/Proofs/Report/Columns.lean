import Crosstab.Proofs.Cell.Order
import Crosstab.Proofs.Report.Reshape
import Mathlib.Data.List.Perm.Subperm
import Mathlib.Data.List.Permutation

/-!
# Which columns a report shows

A report with column keys has a column for each name of a measure and a tuple of column keys, not
for each measure and tuple: of those with one name only the first is shown.  Names leave out nulls
and empty texts and do not mark where a part ends, so different tuples may have one name.

`Frame.firstLabel?` is the label that a name is shown for.  That the columns are the names and the
cells those of first labels is `Frame.exists_pivotWith_shows_names`.  Where names differ nothing is lost;
`Frame.pivot_loses_column` is a table of which a column is.
-/

namespace Crosstab

namespace OutputColumn

/-! ## One column of each name -/

/-- Leaving out repetitions does not change which column of a name comes first. -/
theorem find?_dropRepeated (cs : List OutputColumn) (name : String) :
    (dropRepeated cs).find? (fun c => c.name == name) = cs.find? fun c => c.name == name := by
  induction cs with
  | nil => rfl
  | cons c rest ih =>
    have hcons : ∀ cs ds : List OutputColumn,
        cs.find? (fun c => c.name == name) = ds.find? (fun c => c.name == name) →
        (c :: cs).find? (fun c => c.name == name) = (c :: ds).find? (fun c => c.name == name) := by
      intro cs ds h
      rw [List.find?_cons, List.find?_cons, h]
    unfold dropRepeated
    split
    · next hnone => exact hcons _ _ (hnone ▸ ih)
    · next d more hsome =>
      rw [hsome] at ih
      split
      · next hsame =>
        -- the neighbour that is left out is found only where `c` is found before it
        by_cases hname : c.name = name
        · simp [hname]
        · rw [List.find?_cons_of_neg (by simpa [hsame] using hname)] at ih
          exact hcons _ _ ih
      · exact hcons _ _ ih

/-- Among sorted columns, repetitions are neighbours. -/
theorem nodup_dropRepeated {cs : List OutputColumn}
    (h : cs.Pairwise fun a b => (compareOn name a b != .gt) = true) :
    ((dropRepeated cs).map (·.name)).Nodup := by
  induction cs with
  | nil => exact List.nodup_nil
  | cons c rest ih =>
    obtain ⟨hfirst, hrest⟩ := List.pairwise_cons.mp h
    have hnodup := ih hrest
    have hkept := dropRepeated_sublist rest
    rw [dropRepeated]
    split
    · exact List.nodup_singleton _
    · next d more hsome =>
      rw [hsome] at hnodup hkept
      split
      · next hsame =>
        rw [List.map_cons, hsame] at hnodup
        exact hnodup
      · next hdiffer =>
        refine List.nodup_cons.mpr ⟨?_, hnodup⟩
        intro hmem
        obtain ⟨e, he, hname⟩ := List.mem_map.mp hmem
        -- `d` stands between two columns of one name, so it has this name too
        have hcd := ne_gt_iff_isLE.mp (hfirst d (hkept.subset List.mem_cons_self))
        have hdc : (compareOn name d c).isLE = true := by
          rcases List.mem_cons.mp he with rfl | he
          · exact absurd hname hdiffer
          · have hde := (List.pairwise_cons.mp (hrest.sublist hkept)).1 e he
            rw [compareOn, hname] at hde
            exact ne_gt_iff_isLE.mp hde
        exact hdiffer (Std.LawfulEqCmp.eq_of_compare (Std.OrientedCmp.isLE_antisymm hdc hcd))

end OutputColumn

namespace Frame

variable {f : Frame} {p : Plan} {s : Spec}

theorem output_injective (f : Frame) : Function.Injective f.output := by
  rintro ⟨m, key⟩ ⟨m', key'⟩ h
  obtain ⟨-, hm, rfl⟩ := OutputColumn.mk.injEq .. ▸ h
  rw [← name_metricColumn f m, ← name_metricColumn f m', hm]

/-- The label that a name is shown for: the first of its name, measure by measure, in the order in
which tuples of column keys appear. -/
def firstLabel? (f : Frame) (p : Plan) (name : String) : Option Label :=
  (p.metricNames ×ˢ f.tuples p.columnKeys).find? fun l => labelName l == name

theorem exists_firstLabel? {m : String} (hm : m ∈ p.metricNames) {column : List Cell}
    (hcolumn : column ∈ f.tuples p.columnKeys) :
    ∃ l, f.firstLabel? p (flatName m column) = some l := by
  have hsome : (f.firstLabel? p (flatName m column)).isSome = true :=
    List.find?_isSome.mpr ⟨(m, column), List.mem_product.mpr ⟨hm, hcolumn⟩, beq_self_eq_true _⟩
  exact Option.isSome_iff_exists.mp hsome

theorem of_firstLabel? {name : String} {l : Label} (h : f.firstLabel? p name = some l) :
    l.1 ∈ p.metricNames ∧ l.2 ∈ f.tuples p.columnKeys ∧ labelName l = name := by
  obtain ⟨hm, hcolumn⟩ := List.mem_product.mp (List.mem_of_find?_eq_some h)
  have hname := List.find?_some (p := fun l => labelName l == name) h
  exact ⟨hm, hcolumn, beq_iff_eq.mp hname⟩

theorem firstLabel?_of_namesDiffer (hnames : f.NamesDiffer p) {m : String}
    (hm : m ∈ p.metricNames) {column : List Cell} (hcolumn : column ∈ f.tuples p.columnKeys) :
    f.firstLabel? p (flatName m column) = some (m, column) := by
  obtain ⟨⟨m', column'⟩, hl⟩ := exists_firstLabel? hm hcolumn
  obtain ⟨hm', hcolumn', hname⟩ := of_firstLabel? hl
  obtain ⟨rfl, rfl⟩ := hnames m' hm' m hm column' hcolumn' column hcolumn hname
  exact hl

/-- Sorting by name keeps labels of one name in order. -/
theorem find?_labels (hsome : p.columnKeys ≠ []) (name : String) :
    (f.labels p).find? (fun l => labelName l == name) = f.firstLabel? p name := by
  have hsorted : f.labels p = sortLabels (p.metricNames ×ˢ f.tuples p.columnKeys) := by
    unfold labels
    split
    · next h => exact absurd h hsome
    · rfl
  have hstable := filter_mergeSort_cmp (compareOn labelName) (fun l => labelName l == name)
    (p.metricNames ×ˢ f.tuples p.columnKeys) (by
      intro a b ha hb
      rw [compareOn, beq_iff_eq.mp ha, beq_iff_eq.mp hb]
      exact Std.ReflCmp.compare_self)
  rw [hsorted, firstLabel?, ← List.head?_filter, ← List.head?_filter, ← hstable]
  rfl

theorem pairwise_outputs (hsome : p.columnKeys ≠ []) :
    ((f.labels p).map f.output).Pairwise fun a b =>
      (compareOn OutputColumn.name a b != .gt) = true := by
  have hsorted : (f.labels p).map f.output =
      OutputColumn.sortByName ((p.metricNames ×ˢ f.tuples p.columnKeys).map f.output) := by
    rw [sortByName_map_output]
    unfold labels
    split
    · next h => exact absurd h hsome
    · rfl
  rw [hsorted]
  exact pairwise_mergeSort_cmp (compareOn OutputColumn.name) _

/-- **The columns of a report with column keys.**  There is one for each name, that of its first
label. -/
theorem exists_outputs (hkeys : ∀ name ∈ p.columnKeys, name ∈ f.names)
    (hsome : p.columnKeys ≠ []) :
    ∃ ls : List Label, OutputColumn.all f (p.metricNames.map f.metricColumn) p.columnKeys =
        .ok (ls.map f.output) ∧
      (ls.map labelName).Nodup ∧ ∀ l, l ∈ ls ↔ f.firstLabel? p (labelName l) = some l := by
  obtain ⟨ls, -, hls⟩ := List.sublist_map_iff.mp
    (OutputColumn.dropRepeated_sublist ((f.labels p).map f.output))
  have hnodup : (ls.map labelName).Nodup := by
    rw [← map_name_output f, ← hls]
    exact OutputColumn.nodup_dropRepeated (pairwise_outputs hsome)
  have hfind : ∀ name, ls.find? (fun l => labelName l == name) = f.firstLabel? p name := by
    intro name
    refine Option.map_injective f.output_injective ?_
    have hfirst := OutputColumn.find?_dropRepeated ((f.labels p).map f.output) name
    rw [hls, List.find?_map, List.find?_map] at hfirst
    rw [← find?_labels hsome]
    exact hfirst
  refine ⟨ls, ?_, hnodup, ?_⟩
  · rw [outputColumns_eq_dropRepeated hkeys hsome, hls]
  · intro l
    rw [← hfind]
    exact ⟨find?_of_nodup_map hnodup, List.mem_of_find?_eq_some⟩

/-! ## What becomes of the columns -/

/-- Names differ if and only if no name is left out. -/
theorem length_eq_iff_namesDiffer (hmetrics : p.metricNames.Nodup) {ls : List Label}
    (hnodup : (ls.map labelName).Nodup)
    (hmem : ∀ l, l ∈ ls ↔ f.firstLabel? p (labelName l) = some l) :
    ls.length = p.metricNames.length * (f.tuples p.columnKeys).length ↔ f.NamesDiffer p := by
  have hall : (p.metricNames ×ˢ f.tuples p.columnKeys).Nodup :=
    hmetrics.product (nodup_tuples f p.columnKeys)
  rw [← List.length_product]
  constructor
  · intro hlength
    have hsubset : ls ⊆ p.metricNames ×ˢ f.tuples p.columnKeys := fun l hl =>
      List.mem_of_find?_eq_some ((hmem l).mp hl)
    have hperm : ls.Perm (p.metricNames ×ˢ f.tuples p.columnKeys) :=
      (List.subperm_of_subset hnodup.of_map hsubset).perm_of_length_le hlength.ge
    intro m hm m' hm' key hkey key' hkey' hname
    have hl := hperm.mem_iff.mpr (List.mem_product.mpr ⟨hm, hkey⟩)
    have hl' := hperm.mem_iff.mpr (List.mem_product.mpr ⟨hm', hkey'⟩)
    exact Prod.mk.inj (List.inj_on_of_nodup_map hnodup hl hl' hname)
  · intro hnames
    have hsame : ∀ l, l ∈ ls ↔ l ∈ p.metricNames ×ˢ f.tuples p.columnKeys := by
      rintro ⟨m, key⟩
      rw [hmem, List.mem_product]
      constructor
      · intro h
        exact ⟨(of_firstLabel? h).1, (of_firstLabel? h).2.1⟩
      · rintro ⟨hm, hkey⟩
        exact firstLabel?_of_namesDiffer hnames hm hkey
    exact ((List.perm_ext_iff_of_nodup hnodup.of_map hall).mpr hsame).length_eq

end Frame

/-- A table of a report whose columns are the names of measures with tuples of column keys, as many
as there are measures and tuples if and only if their names differ. -/
structure Table.ShowsNames (t : Table) (f : Frame) (p : Plan) : Prop where
  nodup_columns : t.columns.Nodup
  mem_columns_iff : ∀ name, name ∈ t.columns ↔
    ∃ m ∈ p.metricNames, ∃ column ∈ f.tuples p.columnKeys, flatName m column = name
  length_columns_iff : t.columns.length = p.metricNames.length * (f.tuples p.columnKeys).length ↔
    f.NamesDiffer p

/-- The report shows the cell of a row and a measure of the table at the keys of the row. -/
def Report.Shows (r : Report) (f : Frame) (p : Plan) (i : Nat) (m : String) : Prop :=
  ∃ slice ∈ r.slices, slice.key = f.tuple p.slicerKeys i ∧
    slice.table.cell? (.values (f.tuple p.rowKeys i)) (flatName m (f.tuple p.columnKeys i)) =
      some (f.cellAt m i)

namespace Frame

variable {f : Frame} {p : Plan} {s : Spec} {ls : List Label}

theorem showsNames_of_arranges {slice : List Cell} {t : Table}
    (h : (f.tableOf p ls slice).Arranges t s) (hmetrics : p.metricNames.Nodup)
    (hnodup : (ls.map labelName).Nodup)
    (hmem : ∀ l, l ∈ ls ↔ f.firstLabel? p (labelName l) = some l) : t.ShowsNames f p where
  nodup_columns := by
    rw [h.columns_eq]
    exact hnodup
  mem_columns_iff := by
    intro name
    rw [h.columns_eq]
    show name ∈ ls.map labelName ↔ _
    rw [List.mem_map]
    constructor
    · rintro ⟨l, hl, rfl⟩
      obtain ⟨hm, hcolumn, -⟩ := of_firstLabel? ((hmem l).mp hl)
      exact ⟨l.1, hm, l.2, hcolumn, rfl⟩
    · rintro ⟨m, hm, column, hcolumn, rfl⟩
      obtain ⟨l, hl⟩ := exists_firstLabel? hm hcolumn
      have hname := (of_firstLabel? hl).2.2
      exact ⟨l, (hmem l).mpr (hname ▸ hl), hname⟩
  length_columns_iff := by
    rw [h.columns_eq]
    show (ls.map labelName).length = _ ↔ _
    rw [List.length_map]
    exact length_eq_iff_namesDiffer hmetrics hnodup hmem

/-- Where nothing is cut off, a cell is shown if and only if the first label of its name has the
same cell at its keys. -/
theorem shows_iff {r : Report} (hr : r.Arranged f p ls s) (hdistinct : f.DistinctOn p.groupKeys)
    (htop : s.topN = none) (hlimit : s.limit = none) (hnodup : (ls.map labelName).Nodup)
    (hmem : ∀ l, l ∈ ls ↔ f.firstLabel? p (labelName l) = some l) {i : Nat} (hi : i < f.len)
    {m : String} (hvalue : f.cellAt m i ≠ .null) {l : Label}
    (hl : f.firstLabel? p (flatName m (f.tuple p.columnKeys i)) = some l) :
    r.Shows f p i m ↔
      ∃ j < f.len, f.hasKeys p (f.tuple p.slicerKeys i) (f.tuple p.rowKeys i) l.2 j = true ∧
        f.cellAt l.1 j = f.cellAt m i := by
  obtain ⟨-, -, hname⟩ := of_firstLabel? hl
  have hshown : l ∈ ls := (hmem l).mpr (hname ▸ hl)
  have hrow : .values (f.tuple p.rowKeys i) ∈
      (f.tableOf p ls (f.tuple p.slicerKeys i)).rows.map (·.key) :=
    mem_keys_tableOf.mpr ⟨_, rfl, .inr ⟨i, hi, rfl, rfl⟩⟩
  have hcell : ∀ slice ∈ r.slices, slice.key = f.tuple p.slicerKeys i →
      slice.table.cell? (.values (f.tuple p.rowKeys i))
          (flatName m (f.tuple p.columnKeys i)) =
        f.entry? p (f.tuple p.slicerKeys i) (f.tuple p.rowKeys i) l := by
    intro slice hslice hkey
    have htable := hr.tables slice hslice
    rw [hkey] at htable
    have hshows := cell?_of_arranges htable htop hlimit hnodup hrow hshown
    rwa [hname] at hshows
  have hentry : f.entry? p (f.tuple p.slicerKeys i) (f.tuple p.rowKeys i) l =
      some (f.cellAt m i) ↔ ∃ j < f.len,
        f.hasKeys p (f.tuple p.slicerKeys i) (f.tuple p.rowKeys i) l.2 j = true ∧
          f.cellAt l.1 j = f.cellAt m i := by
    rw [entry?_eq_some_iff hdistinct]
    exact and_iff_right hvalue
  rw [← hentry]
  constructor
  · rintro ⟨slice, hslice, hkey, hshows⟩
    exact (hcell slice hslice hkey).symm.trans hshows
  · intro hshows
    have hkeys : f.tuple p.slicerKeys i ∈ r.slices.map (·.key) :=
      hr.keys_perm.mem_iff.mpr (mem_tuples_iff.mpr (.inr ⟨i, hi, rfl⟩))
    obtain ⟨slice, hslice, hkey⟩ := List.mem_map.mp hkeys
    exact ⟨slice, hslice, hkey, (hcell slice hslice hkey).trans hshows⟩

/-- **What pivoting by columns keeps.**  The columns are the names of measures with tuples of column
keys.  If nothing is cut off, a cell is shown where the first label of its name has it, so that no
cell is lost where names differ.  This is so for every sort; there is no report only if the sort
stops, because some of the cells that are sorted are not totally ordered. -/
theorem exists_pivotWith_shows_names {ε : Type} (σ : Sorter ε)
    (hkeys : ∀ name ∈ p.groupKeys, name ∈ f.names)
    (hmetrics : ∀ name ∈ p.metricNames, name ∈ f.names) (hnodup : p.metricNames.Nodup)
    (hsome : p.columnKeys ≠ []) :
    (∃ r, f.pivotWith σ p s = .ok r ∧ (∀ slice ∈ r.slices, slice.table.ShowsNames f p) ∧
      (f.DistinctOn p.groupKeys → s.topN = none → s.limit = none →
        ∀ i < f.len, ∀ m ∈ p.metricNames, f.cellAt m i ≠ .null →
          (f.NamesDiffer p → r.Shows f p i m) ∧
          ∃ l, f.firstLabel? p (flatName m (f.tuple p.columnKeys i)) = some l ∧
            (r.Shows f p i m ↔ ∃ j < f.len,
              f.hasKeys p (f.tuple p.slicerKeys i) (f.tuple p.rowKeys i) l.2 j = true ∧
                f.cellAt l.1 j = f.cellAt m i))) ∨
      ¬f.Ordered p s ∧ ∃ e, f.pivotWith σ p s = .error (.inl e) := by
  have hcolumns : ∀ name ∈ p.columnKeys, name ∈ f.names := fun name hname =>
    hkeys name (p.columnKeys_subset hname)
  obtain ⟨ls, houtputs, hnames, hmem⟩ := exists_outputs hcolumns hsome
  have hls : ∀ l ∈ ls, l.1 ∈ p.metricNames := fun l hl => (of_firstLabel? ((hmem l).mp hl)).1
  refine (pivotWith_arranged σ hkeys hmetrics houtputs hls).imp_left ?_
  rintro ⟨r, hr, harranged⟩
  refine ⟨r, hr, ?_, ?_⟩
  · intro slice hslice
    exact showsNames_of_arranges (harranged.tables slice hslice) hnodup hnames hmem
  · intro hdistinct htop hlimit i hi m hm hvalue
    have hcolumn : f.tuple p.columnKeys i ∈ f.tuples p.columnKeys :=
      mem_tuples_iff.mpr (.inr ⟨i, hi, rfl⟩)
    constructor
    · intro hdiffer
      have hl := firstLabel?_of_namesDiffer hdiffer hm hcolumn
      rw [shows_iff harranged hdistinct htop hlimit hnames hmem hi hvalue hl]
      exact ⟨i, hi, hasKeys_iff.mpr ⟨rfl, rfl, rfl⟩, rfl⟩
    · obtain ⟨l, hl⟩ := exists_firstLabel? hm hcolumn
      exact ⟨l, hl, shows_iff harranged hdistinct htop hlimit hnames hmem hi hvalue hl⟩

/-- Sums of one city for two paths, each in two parts. -/
def sumsByPath : Frame :=
  ⟨[⟨"city", [.text "oslo", .text "oslo"]⟩, ⟨"above", [.text "x / y", .text "x"]⟩,
    ⟨"below", [.text "z", .text "y / z"]⟩, ⟨"sum", [.int 1, .int 2]⟩], 2⟩

/-- Sums of cities with a column for each path. -/
def pathPlan : Plan := ⟨.here, ["city"], ["above", "below"], [], ["sum"]⟩

/-- The table has two paths of one name.  It has one city, so a sort has no reason to stop. -/
theorem exists_pivotWith_shows_names_sumsByPath :
    ∃ r, sumsByPath.pivotWith .halting pathPlan {} = .ok r ∧
      (∀ slice ∈ r.slices, slice.table.ShowsNames sumsByPath pathPlan) ∧
      (sumsByPath.DistinctOn pathPlan.groupKeys → ({} : Spec).topN = none →
        ({} : Spec).limit = none → ∀ i < sumsByPath.len, ∀ m ∈ pathPlan.metricNames,
        sumsByPath.cellAt m i ≠ .null →
          (sumsByPath.NamesDiffer pathPlan → r.Shows sumsByPath pathPlan i m) ∧
          ∃ l, sumsByPath.firstLabel? pathPlan
              (flatName m (sumsByPath.tuple pathPlan.columnKeys i)) = some l ∧
            (r.Shows sumsByPath pathPlan i m ↔ ∃ j < sumsByPath.len,
              sumsByPath.hasKeys pathPlan (sumsByPath.tuple pathPlan.slicerKeys i)
                  (sumsByPath.tuple pathPlan.rowKeys i) l.2 j = true ∧
                sumsByPath.cellAt l.1 j = sumsByPath.cellAt m i)) := by
  have hordered : sumsByPath.Ordered pathPlan {} := by
    refine ⟨fun _ hname => absurd hname List.not_mem_nil, ?_, fun hne => absurd rfl hne⟩
    intro name hname
    obtain rfl := List.mem_singleton.mp hname
    exact orderedOn_of_oneKind (by decide)
  refine (exists_pivotWith_shows_names .halting (by decide) (by decide) (by decide)
    (by decide)).resolve_right ?_
  exact fun hstops => hstops.1 hordered

/-- **A column is lost.**  There are one measure and two tuples of column keys, and no two rows have
one tuple of keys, but the report has one column, and the second sum is nowhere in it. -/
theorem pivot_loses_column :
    sumsByPath.DistinctOn pathPlan.groupKeys ∧
    pathPlan.metricNames.length * (sumsByPath.tuples pathPlan.columnKeys).length = 2 ∧
    sumsByPath.cellAt "sum" 1 = .int 2 ∧
    ∃ r, sumsByPath.pivot pathPlan {} = .ok r ∧ ∀ slice ∈ r.slices,
      slice.table.columns.length = 1 ∧ ∀ row ∈ slice.table.rows, some (.int 2) ∉ row.cells := by
  refine ⟨by decide, by decide, by decide, ⟨[], [⟨[], ["city"], ["sum / x / y / z"],
    [⟨.values [.text "oslo"], [some (.int 1)]⟩]⟩]⟩, by cbv, by decide⟩

end Frame

end Crosstab
