import Crosstab.Report.Pivot
import Crosstab.Proofs.Frame.Groups
import Mathlib.Data.List.ProdSigma

/-!
# Pivoting without loops

Pivoting groups the rows of a table by slicers, the rows of each slice by row keys, and looks for
the cells of a row among its members.  Positions are counted anew in every group.  Here the same
report is told from the table as a whole:

* a column is a `Label`, a measure with the values of the column keys, and `labels` are the columns
  in their order;
* the cell of a slice, a row and a label is that of the first row of the table with these three
  tuples of keys (`entry?`).

That this is what pivoting gives is `pivot_eq_ok`, wherever the names of columns differ.
-/

namespace Crosstab

namespace Plan

theorem rowKeys_subset (p : Plan) : p.rowKeys ⊆ p.groupKeys := fun _ h =>
  List.mem_append_left _ (List.mem_append_left _ h)

theorem columnKeys_subset (p : Plan) : p.columnKeys ⊆ p.groupKeys := fun _ h =>
  List.mem_append_left _ (List.mem_append_right _ h)

theorem slicerKeys_subset (p : Plan) : p.slicerKeys ⊆ p.groupKeys := fun _ h =>
  List.mem_append_right _ h

end Plan

/-! ## Keys and labels in order -/

/-- Keys in order. -/
def sortKeys (keys : List (List Cell)) : List (List Cell) :=
  keys.mergeSort fun a b => keyOrder a b != .gt

theorem mem_sortKeys {keys : List (List Cell)} {key : List Cell} :
    key ∈ sortKeys keys ↔ key ∈ keys :=
  (List.mergeSort_perm keys _).mem_iff

theorem nodup_sortKeys {keys : List (List Cell)} : (sortKeys keys).Nodup ↔ keys.Nodup :=
  (List.mergeSort_perm keys _).nodup_iff

/-- Groups are sorted as their keys are. -/
theorem stably_groupOrder_map (keys : List (List Cell)) (rowsOf : List Cell → List Nat) :
    stably groupOrder (keys.map fun key => (key, rowsOf key)) =
      (sortKeys keys).map fun key => (key, rowsOf key) := by
  have hsort := List.map_mergeSort (r := fun a b => keyOrder a b != .gt)
    (s := fun a b : Frame.Group => keyOrder a.1 b.1 != .gt) (f := fun key => (key, rowsOf key))
    (l := keys) fun _ _ _ _ => rfl
  exact hsort.symm

/-- A column of a report: a measure and the values of the column keys. -/
abbrev Label := String × List Cell

/-- The name of a column. -/
def labelName (l : Label) : String := flatName l.1 l.2

theorem flatName_nil (metric : String) : flatName metric [] = metric := by
  by_cases h : metric = ""
  · subst h
    rfl
  · have hkept : [metric].filter (fun part => part != "") = [metric] := by simp [h]
    simp only [flatName, List.map_nil, hkept]
    rfl

/-- Labels in the order of their names. -/
def sortLabels (ls : List Label) : List Label :=
  ls.mergeSort fun a b => Cell.textOrder (labelName a) (labelName b) != .gt

theorem OutputColumn.dropRepeated_of_nodup {cs : List OutputColumn}
    (h : (cs.map (·.name)).Nodup) : dropRepeated cs = cs := by
  induction cs with
  | nil => rfl
  | cons c rest ih =>
    obtain ⟨hc, hrest⟩ := List.nodup_cons.mp h
    rw [dropRepeated, ih hrest]
    cases rest with
    | nil => rfl
    | cons d more =>
      have hne : ¬d.name = c.name := fun heq => hc (List.mem_map.mpr ⟨d, List.mem_cons_self, heq⟩)
      exact if_neg hne

namespace Frame

/-- The columns of the report of a table, in order. -/
def labels (f : Frame) (p : Plan) : List Label :=
  match p.columnKeys with
  | [] => p.metricNames.map fun m => (m, [])
  | _ => sortLabels (p.metricNames ×ˢ f.tuples p.columnKeys)

theorem labels_perm (f : Frame) (p : Plan) :
    (f.labels p).Perm (p.metricNames ×ˢ f.tuples p.columnKeys) := by
  unfold labels
  split
  · next h =>
    have hall : (p.metricNames ×ˢ f.tuples []) = p.metricNames.map fun m => (m, []) := by
      show p.metricNames.flatMap (fun m => [(m, [])]) = _
      rw [List.map_eq_flatMap]
    rw [h, hall]
  · exact List.mergeSort_perm _ _

/-- The columns are the measures with the tuples of the column keys. -/
theorem mem_labels {f : Frame} {p : Plan} {l : Label} :
    l ∈ f.labels p ↔ l.1 ∈ p.metricNames ∧ l.2 ∈ f.tuples p.columnKeys :=
  (f.labels_perm p).mem_iff.trans List.mem_product

/-- Different measures and tuples of column keys have different names. -/
def NamesDiffer (f : Frame) (p : Plan) : Prop :=
  ∀ m ∈ p.metricNames, ∀ m' ∈ p.metricNames, ∀ key ∈ f.tuples p.columnKeys,
    ∀ key' ∈ f.tuples p.columnKeys, flatName m key = flatName m' key' → m = m' ∧ key = key'

instance (f : Frame) (p : Plan) : Decidable (f.NamesDiffer p) :=
  inferInstanceAs (Decidable (∀ m ∈ p.metricNames, ∀ m' ∈ p.metricNames,
    ∀ key ∈ f.tuples p.columnKeys, ∀ key' ∈ f.tuples p.columnKeys,
    flatName m key = flatName m' key' → m = m' ∧ key = key'))

theorem nodup_map_labelName {f : Frame} {p : Plan} (hmetrics : p.metricNames.Nodup)
    (hnames : f.NamesDiffer p) : ((f.labels p).map labelName).Nodup := by
  have hlabels : (f.labels p).Nodup :=
    (f.labels_perm p).nodup_iff.mpr (hmetrics.product (nodup_tuples f p.columnKeys))
  refine List.Nodup.map_on ?_ hlabels
  rintro ⟨m, key⟩ hl ⟨m', key'⟩ hl' heq
  obtain ⟨hm, hkey⟩ := mem_labels.mp hl
  obtain ⟨hm', hkey'⟩ := mem_labels.mp hl'
  obtain ⟨rfl, rfl⟩ := hnames m hm m' hm' key hkey key' hkey' heq
  rfl

/-- The column of a measure. -/
def metricColumn (f : Frame) (metric : String) : Column := (f.column? metric).getD ⟨metric, []⟩

theorem metricColumn_of_require {f : Frame} {metric : String} {c : Column}
    (h : f.require metric = .ok c) : f.metricColumn metric = c := by
  rw [metricColumn, require_eq_ok_iff.mp h, Option.getD_some]

theorem name_metricColumn (f : Frame) (metric : String) :
    (f.metricColumn metric).name = metric := by
  unfold metricColumn
  cases h : f.column? metric with
  | none => rfl
  | some c => exact (require_eq_ok (require_eq_ok_iff.mpr h)).2

theorem getD_metricColumn (f : Frame) (metric : String) (i : Nat) :
    (f.metricColumn metric).values.getD i .null = f.cellAt metric i := by
  unfold metricColumn cellAt
  cases f.column? metric with
  | none => rfl
  | some c => rfl

/-- The column of a report for a label. -/
def output (f : Frame) (l : Label) : OutputColumn := ⟨labelName l, f.metricColumn l.1, l.2⟩

theorem map_name_output (f : Frame) (ls : List Label) :
    (ls.map f.output).map (·.name) = ls.map labelName := by
  rw [List.map_map]
  rfl

/-- Every measure has a column. -/
theorem mapM_require {f : Frame} {names : List String} (h : ∀ name ∈ names, name ∈ f.names) :
    names.mapM f.require = .ok (names.map f.metricColumn) := by
  refine mapM_eq_ok_map ?_
  intro name hname
  obtain ⟨c, hc⟩ := exists_require (h name hname)
  rw [metricColumn_of_require hc, hc]

theorem sortByName_map_output (f : Frame) (ls : List Label) :
    OutputColumn.sortByName (ls.map f.output) = (sortLabels ls).map f.output := by
  have hsort := List.map_mergeSort
    (r := fun a b => Cell.textOrder (labelName a) (labelName b) != .gt)
    (s := fun a b : OutputColumn => Cell.textOrder a.name b.name != .gt) (f := f.output) (l := ls)
    fun _ _ _ _ => rfl
  exact hsort.symm

/-- With column keys the columns are those of the labels, each name once. -/
theorem outputColumns_eq_dropRepeated {f : Frame} {p : Plan}
    (hkeys : ∀ name ∈ p.columnKeys, name ∈ f.names) (hsome : p.columnKeys ≠ []) :
    OutputColumn.all f (p.metricNames.map f.metricColumn) p.columnKeys =
      .ok (OutputColumn.dropRepeated ((f.labels p).map f.output)) := by
  unfold labels
  cases hcases : p.columnKeys with
  | nil => exact absurd hcases hsome
  | cons key rest =>
    rw [hcases] at hkeys
    have hall : ((p.metricNames.map f.metricColumn).flatMap fun m =>
        ((f.tuples (key :: rest)).map fun k => (k, f.rowsWith (key :: rest) k)).map fun g =>
          (⟨flatName m.name g.1, m, g.1⟩ : OutputColumn)) =
        (p.metricNames ×ˢ f.tuples (key :: rest)).map f.output := by
      show _ = (List.flatMap _ _).map _
      simp only [List.flatMap_map, List.map_flatMap, List.map_map, Function.comp_def,
        name_metricColumn]
      rfl
    simp only [OutputColumn.all, groups_eq_ok hkeys, ok_bind]
    rw [hall, sortByName_map_output]
    rfl

/-- Columns of different names are all shown. -/
theorem outputColumns_eq_ok {f : Frame} {p : Plan} (hkeys : ∀ name ∈ p.columnKeys, name ∈ f.names)
    (hnames : ((f.labels p).map labelName).Nodup) :
    OutputColumn.all f (p.metricNames.map f.metricColumn) p.columnKeys =
      .ok ((f.labels p).map f.output) := by
  by_cases hcases : p.columnKeys = []
  · have houtput : ∀ m, f.output (m, []) = ⟨(f.metricColumn m).name, f.metricColumn m, []⟩ := by
      intro m
      rw [output, labelName, flatName_nil, name_metricColumn]
    simp only [labels, hcases, OutputColumn.all, List.map_map, Function.comp_def, houtput]
  · rw [outputColumns_eq_dropRepeated hkeys hcases, OutputColumn.dropRepeated_of_nodup]
    rwa [map_name_output]

/-! ## Cells -/

/-- Whether a row of the table has the keys of a slice, a row and a column. -/
def hasKeys (f : Frame) (p : Plan) (slice row column : List Cell) (i : Nat) : Bool :=
  f.tuple p.slicerKeys i == slice && f.tuple p.rowKeys i == row && f.tuple p.columnKeys i == column

theorem hasKeys_iff {f : Frame} {p : Plan} {slice row column : List Cell} {i : Nat} :
    f.hasKeys p slice row column i = true ↔ f.tuple p.slicerKeys i = slice ∧
      f.tuple p.rowKeys i = row ∧ f.tuple p.columnKeys i = column := by
  simp [hasKeys, and_assoc]

/-- The cell of a slice and a row in a column: that of the first row with these keys; a null is a
missing cell. -/
def entry? (f : Frame) (p : Plan) (slice row : List Cell) (l : Label) : Option Cell := do
  let i ← (List.range f.len).find? (f.hasKeys p slice row l.2)
  let cell := f.cellAt l.1 i
  if cell.isNull then none else some cell

/-- Rows of two tables agree in all keys if they agree in those of rows, columns and slicers. -/
theorem tuple_groupKeys_eq_iff {f g : Frame} {p : Plan} {i j : Nat} :
    f.tuple p.groupKeys i = g.tuple p.groupKeys j ↔
      f.tuple p.rowKeys i = g.tuple p.rowKeys j ∧
      f.tuple p.columnKeys i = g.tuple p.columnKeys j ∧
      f.tuple p.slicerKeys i = g.tuple p.slicerKeys j := by
  have hlen : ∀ keys : List String, (f.tuple keys i).length = (g.tuple keys j).length := by
    intro keys
    rw [length_tuple, length_tuple]
  rw [Plan.groupKeys, tuple_append, tuple_append, tuple_append, tuple_append]
  constructor
  · intro h
    obtain ⟨h, hslicers⟩ := List.append_inj' h (hlen _)
    obtain ⟨hrows, hcolumns⟩ := List.append_inj' h (hlen _)
    exact ⟨hrows, hcolumns, hslicers⟩
  · rintro ⟨hrows, hcolumns, hslicers⟩
    rw [hrows, hcolumns, hslicers]

/-- A cell that is shown is that of a row with the keys of slice, row and column. -/
theorem of_entry?_eq_some {f : Frame} {p : Plan} {slice row : List Cell} {l : Label} {v : Cell}
    (h : f.entry? p slice row l = some v) :
    v ≠ .null ∧ ∃ i < f.len, f.hasKeys p slice row l.2 i = true ∧ f.cellAt l.1 i = v := by
  obtain ⟨i, hi, hcell⟩ := Option.bind_eq_some_iff.mp h
  have hlt : i < f.len := List.mem_range.mp (List.mem_of_find?_eq_some hi)
  obtain ⟨hnull, hv⟩ := Option.ite_none_left_eq_some.mp hcell
  obtain rfl := Option.some.inj hv
  exact ⟨fun heq => hnull (Cell.isNull_iff.mpr heq), i, hlt, List.find?_some hi, rfl⟩

/-- Where no two rows have one tuple of keys, a cell is shown if and only if it is that of the row
with the keys of slice, row and column. -/
theorem entry?_eq_some_iff {f : Frame} {p : Plan} (hdistinct : f.DistinctOn p.groupKeys)
    {slice row : List Cell} {l : Label} {v : Cell} :
    f.entry? p slice row l = some v ↔
      v ≠ .null ∧ ∃ i < f.len, f.hasKeys p slice row l.2 i = true ∧ f.cellAt l.1 i = v := by
  constructor
  · exact of_entry?_eq_some
  · rintro ⟨hv, i, hi, hkeys, rfl⟩
    have hsome : ((List.range f.len).find? (f.hasKeys p slice row l.2)).isSome = true :=
      List.find?_isSome.mpr ⟨i, List.mem_range.mpr hi, hkeys⟩
    obtain ⟨j, hj⟩ := Option.isSome_iff_exists.mp hsome
    have hlt : j < f.len := List.mem_range.mp (List.mem_of_find?_eq_some hj)
    -- the first row with these keys is the only one
    obtain ⟨hs, hr, hc⟩ := hasKeys_iff.mp hkeys
    obtain ⟨hs', hr', hc'⟩ := hasKeys_iff.mp (List.find?_some hj)
    obtain rfl : j = i := hdistinct j hlt i hi (tuple_groupKeys_eq_iff.mpr
      ⟨hr'.trans hr.symm, hc'.trans hc.symm, hs'.trans hs.symm⟩)
    unfold entry?
    rw [hj]
    exact if_neg fun hnull => hv (Cell.isNull_iff.mp hnull)

/-- The table of a slice with a column for each of some labels, before it is sorted and cut. -/
def tableOf (f : Frame) (p : Plan) (ls : List Label) (slice : List Cell) : Table where
  indexNames := p.rowKeys
  columns := ls.map labelName
  rows := (sortKeys ((f.take (f.rowsWith p.slicerKeys slice)).tuples p.rowKeys)).map fun row =>
    ⟨.values row, ls.map (f.entry? p slice row)⟩

/-- The table of a slice, before it is sorted and cut. -/
def pivoted (f : Frame) (p : Plan) (slice : List Cell) : Table where
  indexNames := p.rowKeys
  columns := (f.labels p).map labelName
  rows := (sortKeys ((f.take (f.rowsWith p.slicerKeys slice)).tuples p.rowKeys)).map fun row =>
    ⟨.values row, (f.labels p).map (f.entry? p slice row)⟩

theorem cellOf?_output (f : Frame) (p : Plan) (slice row : List Cell) (l : Label) :
    OutputColumn.cellOf? (f.tuple p.columnKeys)
        ((f.rowsWith p.slicerKeys slice).filter fun i => f.tuple p.rowKeys i == row) (f.output l) =
      f.entry? p slice row l := by
  have hfind : ((f.rowsWith p.slicerKeys slice).filter fun i => f.tuple p.rowKeys i == row).find?
        (fun i => f.tuple p.columnKeys i == l.2) =
      (List.range f.len).find? (f.hasKeys p slice row l.2) := by
    rw [rowsWith, List.find?_filter, List.find?_filter]
    congr 1
    funext i
    rw [Bool.eq_iff_iff, hasKeys_iff]
    simp
  simp only [OutputColumn.cellOf?, output, getD_metricColumn, entry?, hfind]

/-- The row of a group holds the cells of the table. -/
theorem pivotRow_eq (f : Frame) (p : Plan) (ls : List Label) {keyColumns : List Column}
    (hcolumns : p.columnKeys.mapM f.require = .ok keyColumns) (slice row : List Cell) :
    pivotRow (ls.map f.output) (keyAt keyColumns) (f.rowsWith p.slicerKeys slice)
        (row, (f.take (f.rowsWith p.slicerKeys slice)).rowsWith p.rowKeys row) =
      ⟨.values row, ls.map (f.entry? p slice row)⟩ := by
  have hkeyAt : keyAt keyColumns = f.tuple p.columnKeys := funext (keyAt_eq_tuple hcolumns)
  simp only [pivotRow, map_rowsWith_take, hkeyAt, List.map_map, Function.comp_def, cellOf?_output]

/-! ## With any sort -/

section

variable {ε : Type} {f : Frame} {p : Plan} {ls : List Label} {s : Spec} {σ : Sorter ε}

/-- The groups of the slices. -/
def sliceGroups (f : Frame) (p : Plan) : List Group :=
  (f.tuples p.slicerKeys).map fun slice => (slice, f.rowsWith p.slicerKeys slice)

/-- The groups of the rows of a slice. -/
def rowGroups (f : Frame) (p : Plan) (slice : List Cell) : List Group :=
  ((f.take (f.rowsWith p.slicerKeys slice)).tuples p.rowKeys).map fun row =>
    (row, (f.take (f.rowsWith p.slicerKeys slice)).rowsWith p.rowKeys row)

/-- The table of a slice with its groups in some order, before it is sorted and cut. -/
def tableIn (f : Frame) (p : Plan) (ls : List Label) (slice : List Cell) (groups : List Group) :
    Table where
  indexNames := p.rowKeys
  columns := ls.map labelName
  rows := groups.map fun g => ⟨.values g.1, ls.map (f.entry? p slice g.1)⟩

/-- A slice of the report, with a sort of one's own. -/
def sliceWith (σ : Sorter ε) (f : Frame) (p : Plan) (ls : List Label) (s : Spec)
    (slice : List Cell) : Except ε Slice := do
  let groups ← σ.sort groupOrder (f.rowGroups p slice)
  let table ← (f.tableIn p ls slice groups).finishWith σ s
  return ⟨slice, table⟩

/-- The report with columns for some labels, with a sort of one's own. -/
def reportWith (σ : Sorter ε) (f : Frame) (p : Plan) (ls : List Label) (s : Spec) :
    Except ε Report := do
  let groups ← σ.sort groupOrder (f.sliceGroups p)
  let slices ← groups.mapM fun g => f.sliceWith σ p ls s g.1
  return ⟨p.slicerKeys, slices⟩

theorem pivotTable_eq {keyColumns : List Column} (hrows : ∀ name ∈ p.rowKeys, name ∈ f.names)
    (hcolumns : p.columnKeys.mapM f.require = .ok keyColumns) (slice : List Cell) :
    f.pivotTable σ p (ls.map f.output) (keyAt keyColumns) (f.rowsWith p.slicerKeys slice) =
      ((σ.sort groupOrder (f.rowGroups p slice)).map (f.tableIn p ls slice)).mapError .inl := by
  have hnames : ∀ name ∈ p.rowKeys, name ∈ (f.take (f.rowsWith p.slicerKeys slice)).names := by
    rwa [names_take]
  rw [pivotTable, groups_eq_ok hnames]
  show ((σ.sort groupOrder (f.rowGroups p slice)).mapError Sum.inl >>= _) = _
  cases hsort : σ.sort groupOrder (f.rowGroups p slice) with
  | error e => rfl
  | ok groups =>
    -- the sort keeps the groups, so each of them is a key with all of its rows
    have hgroups : groups.map (pivotRow (ls.map f.output) (keyAt keyColumns)
        (f.rowsWith p.slicerKeys slice)) =
        groups.map fun g => ⟨.values g.1, ls.map (f.entry? p slice g.1)⟩ := by
      refine List.map_congr_left ?_
      intro g hg
      obtain ⟨row, -, rfl⟩ := List.mem_map.mp ((σ.perm hsort).subset hg)
      exact pivotRow_eq f p ls hcolumns slice row
    show Except.ok (Table.mk _ _ _) = _
    rw [hgroups, map_name_output]
    rfl

/-- Where all columns are there, only sorting can fail. -/
theorem pivotWith_eq (hkeys : ∀ name ∈ p.groupKeys, name ∈ f.names)
    (hmetrics : ∀ name ∈ p.metricNames, name ∈ f.names)
    (houtputs : OutputColumn.all f (p.metricNames.map f.metricColumn) p.columnKeys =
      .ok (ls.map f.output)) :
    f.pivotWith σ p s = (f.reportWith σ p ls s).mapError .inl := by
  simp only [Plan.groupKeys, List.mem_append, or_imp, forall_and] at hkeys
  obtain ⟨⟨hrows, hcolumns⟩, hslicers⟩ := hkeys
  have hkeyColumns := mapM_require hcolumns
  rw [pivotWith, mapM_require hmetrics]
  show ((OutputColumn.all f (p.metricNames.map f.metricColumn) p.columnKeys).mapError Sum.inr >>= _) =
    _
  rw [houtputs, hkeyColumns, groups_eq_ok hslicers]
  show ((σ.sort groupOrder (f.sliceGroups p)).mapError Sum.inl >>= _) = _
  rw [reportWith]
  cases hsort : σ.sort groupOrder (f.sliceGroups p) with
  | error e => rfl
  | ok groups =>
    have hslices : groups.mapM (fun g => do
          let table ← f.pivotTable σ p (ls.map f.output)
            (keyAt (p.columnKeys.map f.metricColumn)) g.2
          let table ← (table.finishWith σ s).mapError Sum.inl
          return (⟨g.1, table⟩ : Slice)) =
        (groups.mapM fun g => f.sliceWith σ p ls s g.1).mapError Sum.inl := by
      refine mapM_eq_mapError fun g hg => ?_
      obtain ⟨slice, -, rfl⟩ := List.mem_map.mp ((σ.perm hsort).subset hg)
      dsimp only
      rw [pivotTable_eq hrows hkeyColumns, sliceWith]
      cases σ.sort groupOrder (f.rowGroups p slice) with
      | error e => rfl
      | ok groups =>
        show (((f.tableIn p ls slice groups).finishWith σ s).mapError Sum.inl >>= _) = _
        rw [ok_bind]
        exact bind_eq_mapError rfl fun _ => rfl
    rw [mapError_ok, ok_bind, ok_bind]
    exact bind_eq_mapError hslices fun _ => rfl

/-! ### Where sorts do not matter -/

/-- The sort puts the slices, their rows and the sorted columns in order, as merging does. -/
structure SortsAll (σ : Sorter ε) (f : Frame) (p : Plan) (ls : List Label) (s : Spec) : Prop where
  slices : σ.sort groupOrder (f.sliceGroups p) = .ok (stably groupOrder (f.sliceGroups p))
  rows : ∀ slice, σ.sort groupOrder (f.rowGroups p slice) =
    .ok (stably groupOrder (f.rowGroups p slice))
  columns : ∀ slice, (f.tableOf p ls slice).finishWith σ s = .ok ((f.tableOf p ls slice).finish s)

theorem sortsAll_merging (f : Frame) (p : Plan) (ls : List Label) (s : Spec) :
    SortsAll .merging f p ls s where
  slices := rfl
  rows _ := rfl
  columns _ := rfl

theorem tableIn_stably (f : Frame) (p : Plan) (ls : List Label) (slice : List Cell) :
    f.tableIn p ls slice (stably groupOrder (f.rowGroups p slice)) = f.tableOf p ls slice := by
  rw [rowGroups, stably_groupOrder_map, tableIn, List.map_map]
  rfl

theorem SortsAll.reportWith_eq (h : SortsAll σ f p ls s) : f.reportWith σ p ls s =
    .ok ⟨p.slicerKeys, (sortKeys (f.tuples p.slicerKeys)).map fun slice =>
      ⟨slice, (f.tableOf p ls slice).finish s⟩⟩ := by
  have hslice : ∀ slice, f.sliceWith σ p ls s slice =
      .ok ⟨slice, (f.tableOf p ls slice).finish s⟩ := by
    intro slice
    rw [sliceWith, h.rows slice, ok_bind, tableIn_stably, h.columns slice]
    rfl
  rw [reportWith, h.slices, ok_bind, mapM_eq_ok_map fun g _ => hslice g.1, sliceGroups,
    stably_groupOrder_map, List.map_map]
  rfl

/-- Pivoting gives a table for each slice, with the columns that are kept of all labels. -/
theorem pivot_eq_ok_of_outputs (s : Spec) (hkeys : ∀ name ∈ p.groupKeys, name ∈ f.names)
    (hmetrics : ∀ name ∈ p.metricNames, name ∈ f.names)
    (houtputs : OutputColumn.all f (p.metricNames.map f.metricColumn) p.columnKeys =
      .ok (ls.map f.output)) :
    f.pivot p s = .ok ⟨p.slicerKeys, (sortKeys (f.tuples p.slicerKeys)).map fun slice =>
      ⟨slice, (f.tableOf p ls slice).finish s⟩⟩ := by
  rw [pivot, pivotWith_eq hkeys hmetrics houtputs, (sortsAll_merging f p ls s).reportWith_eq]
  rfl

end

/-- **What pivoting gives.** -/
theorem pivot_eq_ok {f : Frame} {p : Plan} (s : Spec)
    (hkeys : ∀ name ∈ p.groupKeys, name ∈ f.names)
    (hmetrics : ∀ name ∈ p.metricNames, name ∈ f.names)
    (hnames : ((f.labels p).map labelName).Nodup) :
    f.pivot p s = .ok ⟨p.slicerKeys, (sortKeys (f.tuples p.slicerKeys)).map fun slice =>
      ⟨slice, (f.pivoted p slice).finish s⟩⟩ := by
  have hcolumns : ∀ name ∈ p.columnKeys, name ∈ f.names := fun name hname =>
    hkeys name (p.columnKeys_subset hname)
  exact pivot_eq_ok_of_outputs s hkeys hmetrics (outputColumns_eq_ok hcolumns hnames)

/-! ## Tables that are pivoted -/

/-- A table that can be pivoted without loss: keys and measures have columns, no two rows have one
tuple of keys, and no two columns of the report have one name. -/
structure Pivotable (f : Frame) (p : Plan) : Prop where
  mem_keys : ∀ name ∈ p.groupKeys, name ∈ f.names
  mem_metrics : ∀ name ∈ p.metricNames, name ∈ f.names
  nodup_metrics : p.metricNames.Nodup
  distinct : f.DistinctOn p.groupKeys
  names_differ : f.NamesDiffer p

namespace Pivotable

variable {f : Frame} {p : Plan} (h : f.Pivotable p)

include h

theorem mem_rows : ∀ name ∈ p.rowKeys, name ∈ f.names := fun name hname =>
  h.mem_keys name (Plan.rowKeys_subset p hname)

theorem mem_columns : ∀ name ∈ p.columnKeys, name ∈ f.names := fun name hname =>
  h.mem_keys name (Plan.columnKeys_subset p hname)

theorem mem_slicers : ∀ name ∈ p.slicerKeys, name ∈ f.names := fun name hname =>
  h.mem_keys name (Plan.slicerKeys_subset p hname)

theorem nodup_labelNames : ((f.labels p).map labelName).Nodup :=
  nodup_map_labelName h.nodup_metrics h.names_differ

/-- The report of the table, slice by slice. -/
theorem pivot_eq (s : Spec) : f.pivot p s = .ok ⟨p.slicerKeys,
    (sortKeys (f.tuples p.slicerKeys)).map fun slice => ⟨slice, (f.pivoted p slice).finish s⟩⟩ :=
  pivot_eq_ok s h.mem_keys h.mem_metrics h.nodup_labelNames

end Pivotable

end Frame

end Crosstab
