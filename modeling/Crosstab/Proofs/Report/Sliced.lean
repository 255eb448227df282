import Crosstab.Proofs.Report.Buckets
import Crosstab.Proofs.Report.Engine
import Crosstab.Proofs.Report.SliceGroups
import Mathlib.Data.List.Find

/-!
# Slices are reports

A slice of a report is the report of the rows that it covers (`Dataset.report_slice`): where nothing
but the slicers reads their keys and nothing is spread over columns, the same report without slicers
over only the rows of the base that have the key of the slice gives the table of the slice, its rows
in the same order and its totals included.

Planning over the rows of the slice makes the same table but for the buckets of slicers
(`Spec.exists_plan_part`), grouping it makes the rows of the slice in the grouped table
(`Spec.exists_grouped_slice`), and what is pivoted of a slice are these rows (`Frame.pivoted_slice`).
-/

namespace Crosstab

namespace Frame

/-! ## Pivoting a slice -/

/-- What is shown of a table depends on the columns of keys and of the measure. -/
theorem AgreeOn.entry?_eq {N : String → Prop} {f g : Frame} {p : Plan} {l : Label}
    (h : f.AgreeOn N g) (hkeys : ∀ name ∈ p.groupKeys, N name) (hmetric : N l.1)
    (slice row : List Cell) : g.entry? p slice row l = f.entry? p slice row l := by
  have hhas : g.hasKeys p slice row l.2 = f.hasKeys p slice row l.2 := by
    funext i
    rw [hasKeys, hasKeys,
      h.tuple_eq (fun name hname => hkeys name (p.slicerKeys_subset hname)),
      h.tuple_eq (fun name hname => hkeys name (p.rowKeys_subset hname)),
      h.tuple_eq (fun name hname => hkeys name (p.columnKeys_subset hname))]
  unfold entry?
  rw [h.len_eq, hhas]
  refine Option.bind_congr ?_
  intro i _
  rw [h.cellAt_eq hmetric]

/-- What is shown of a slice is shown of its rows alone. -/
theorem entry?_take_rowsWith (f : Frame) (p : Plan) (slice row : List Cell) (l : Label) :
    Frame.entry? (f.take (f.rowsWith p.slicerKeys slice)) { p with slicerKeys := [] } [] row l =
      f.entry? p slice row l := by
  generalize hrows : f.rowsWith p.slicerKeys slice = rows
  -- the first row of the slice with the other keys, in the table and among the rows of the slice
  have hfirst : (List.range f.len).find? (f.hasKeys p slice row l.2) =
      rows.find? fun i => f.tuple p.rowKeys i == row && f.tuple p.columnKeys i == l.2 := by
    rw [← hrows, rowsWith, List.find?_filter]
    congr 1
    funext i
    rw [Bool.eq_iff_iff, hasKeys_iff]
    simp
  have hplace : rows.find? (fun i => f.tuple p.rowKeys i == row && f.tuple p.columnKeys i == l.2) =
      ((List.range rows.length).find?
        ((f.take rows).hasKeys { p with slicerKeys := [] } [] row l.2)).map
          fun j => rows.getD j 0 := by
    conv_lhs => rw [← map_getD_range rows 0, List.find?_map]
    congr 1
    refine List.find?_congr ?_
    intro j hj
    have hj : rows[j]? = some (rows.getD j 0) := getElem?_eq_getD (List.mem_range.mp hj) 0
    rw [Function.comp_apply, hasKeys, tuple_take hj, tuple_take hj, tuple_take hj]
    rfl
  unfold entry?
  rw [hfirst, hplace, take_len]
  refine Eq.trans (Option.bind_congr ?_) Option.bind_map.symm
  intro j hj
  have hlt : j < rows.length := List.mem_range.mp (List.mem_of_find?_eq_some hj)
  rw [Function.comp_apply, cellAt_take (getElem?_eq_getD hlt 0)]

theorem labels_of_columnKeys {p : Plan} (h : p.columnKeys = []) (f : Frame) :
    f.labels p = p.metricNames.map fun m => (m, []) := by
  rw [labels, h]

/-- Without column keys the columns have the names of the measures. -/
theorem map_labelName_labels {p : Plan} (h : p.columnKeys = []) (f : Frame) :
    (f.labels p).map labelName = p.metricNames := by
  rw [labels_of_columnKeys h, List.map_map]
  refine (List.map_congr_left ?_).trans (List.map_id _)
  intro m _
  exact flatName_nil m

/-- A slice is pivoted as its rows alone are. -/
theorem pivoted_slice {f g : Frame} {p : Plan} {slice : List Cell} (hg : g.WellFormed)
    (hcolumns : p.columnKeys = []) (hrows : ∀ name ∈ p.rowKeys, name ∉ p.slicerKeys)
    (hmetrics : ∀ name ∈ p.metricNames, name ∉ p.slicerKeys)
    (h : (f.take (f.rowsWith p.slicerKeys slice)).AgreeOn (· ∉ p.slicerKeys) g) :
    g.pivoted { p with slicerKeys := [] } [] = f.pivoted p slice := by
  have hall : g.take (g.rowsWith [] []) = g := by
    have hrange : g.rowsWith [] [] = List.range g.len := List.filter_eq_self.mpr fun _ _ => rfl
    rw [hrange, take_range hg]
  have hkeys : ∀ name ∈ Plan.groupKeys { p with slicerKeys := [] }, name ∉ p.slicerKeys := by
    intro name hname
    rw [Plan.groupKeys, hcolumns, List.append_nil, List.append_nil] at hname
    exact hrows name hname
  have hentry : ∀ row, ∀ l ∈ f.labels p,
      g.entry? { p with slicerKeys := [] } [] row l = f.entry? p slice row l := by
    intro row l hl
    rw [h.entry?_eq hkeys (hmetrics l.1 (mem_labels.mp hl).1), entry?_take_rowsWith]
  have hlabels : g.labels { p with slicerKeys := [] } = f.labels p :=
    (labels_of_columnKeys hcolumns g).trans (labels_of_columnKeys hcolumns f).symm
  unfold pivoted
  rw [hlabels, hall, h.tuples_eq hrows]
  congr 1
  refine List.map_congr_left ?_
  intro row _
  rw [List.map_congr_left (hentry row)]

end Frame

namespace Plan

/-! ## Planned names -/

variable {p : Plan} (h : (p.groupKeys ++ p.metricNames).Nodup)

include h

/-- Where planned names differ, no other name is a key of a slicer. -/
theorem not_mem_slicerKeys : (∀ name ∈ p.rowKeys ++ p.columnKeys, name ∉ p.slicerKeys) ∧
    ∀ name ∈ p.metricNames, name ∉ p.slicerKeys := by
  obtain ⟨hkeys, -, hapart⟩ := List.nodup_append.mp h
  constructor
  · intro name hname hslicer
    exact (List.nodup_append.mp hkeys).2.2 name hname name hslicer rfl
  · intro name hname hslicer
    exact hapart name (p.slicerKeys_subset hslicer) name hname rfl

theorem nodup_slicerKeys_nil : (groupKeys { p with slicerKeys := [] } ++ p.metricNames).Nodup := by
  refine h.sublist (List.Sublist.append_right ?_ _)
  rw [groupKeys, List.append_nil]
  exact List.sublist_append_left _ _

end Plan

namespace Spec

/-! ## What a plan and its grouped table give -/

variable {s : Spec} {site : Site} {ds ds' : Dataset} {p : Plan}

theorem slicerKeys_of_plan (h : s.plan site ds = (ds', .ok p)) :
    p.slicerKeys = s.slicers.map Dimension.key := by
  obtain ⟨_, keys, _, hkeys, rfl⟩ := plan_eq_ok h
  rw [keys_eq_map_key hkeys]
  show (s.dimensions.map Dimension.key).drop (s.rows.length + s.columns.length) = _
  rw [← List.map_drop, dimensions, ← List.length_append, List.drop_left]

theorem columnKeys_of_plan (hcolumns : s.columns = []) (h : s.plan site ds = (ds', .ok p)) :
    p.columnKeys = [] := by
  obtain ⟨_, keys, _, _, rfl⟩ := plan_eq_ok h
  rw [planOf, hcolumns]
  rfl

/-- A name that is not grouped by in a slicer is not that of its buckets. -/
theorem unbucketed_of_not_mem (h : s.plan site ds = (ds', .ok p)) {name : String}
    (hname : name ∉ p.slicerKeys) : s.Unbucketed name := by
  rw [slicerKeys_of_plan h] at hname
  rintro d hd g hg rfl
  refine hname ?_
  rw [← Dimension.key_of_bucket hg]
  exact List.mem_map_of_mem hd

/-- The number of rows is computed without reading a column. -/
theorem dependencies_of_plannedMeasures {N : String → Prop}
    (h : ∀ m ∈ s.metrics, ∀ name ∈ m.dependencies, N name) :
    ∀ m ∈ s.plannedMeasures, ∀ name ∈ m.dependencies, N name := by
  unfold plannedMeasures
  cases hmetrics : s.metrics with
  | nil =>
    intro m hm name hname
    rw [List.mem_singleton.mp hm] at hname
    exact nomatch hname
  | cons m rest => rwa [hmetrics] at h

/-- A grouped table of different names is pivoted slice by slice, if nothing is spread over
columns. -/
theorem pivot_of_grouped {t : Frame} (hmetrics : p.metricNames = s.plannedMetrics)
    (hcolumns : p.columnKeys = []) (hnames : (p.groupKeys ++ p.metricNames).Nodup)
    (ht : s.grouped ds p = .ok t) (s' : Spec) :
    t.pivot p s' = .ok ⟨p.slicerKeys, (sortKeys (t.tuples p.slicerKeys)).map fun slice =>
      ⟨slice, (t.pivoted p slice).finish s'⟩⟩ := by
  obtain ⟨_, htnames, _⟩ := wellFormed_of_grouped (hmetrics ▸ hnames) ht
  rw [← hmetrics] at htnames
  refine Frame.pivot_eq_ok s' ?_ ?_ ?_
  · exact fun name hname => htnames ▸ List.mem_append_left _ hname
  · exact fun name hname => htnames ▸ List.mem_append_right _ hname
  · rw [Frame.map_labelName_labels hcolumns]
    exact (List.nodup_append.mp hnames).2.1

/-- Without slicers there is one slice. -/
theorem pivot_single {t : Frame} (hmetrics : p.metricNames = s.plannedMetrics)
    (hcolumns : p.columnKeys = []) (hslicers : p.slicerKeys = [])
    (hnames : (p.groupKeys ++ p.metricNames).Nodup) (ht : s.grouped ds p = .ok t) (s' : Spec) :
    t.pivot p s' = .ok ⟨[], [⟨[], (t.pivoted p []).finish s'⟩]⟩ := by
  have hone : sortKeys (t.tuples []) = [[]] := List.mergeSort_singleton []
  rw [pivot_of_grouped hmetrics hcolumns hnames ht, hslicers, hone, List.map_singleton]

end Spec

namespace Dataset

/-- **Slices are reports.**  Where nothing is spread over columns, keys and measures have different
names, the filter of groups does not read the keys of slicers, and neither the filter of rows nor a
measure reads their buckets: the table of each slice is the report without slicers over the rows of
the base that have the key of the slice. -/
theorem report_slice {base : Frame} {s : Spec} {ds : Dataset} {p : Plan} {r : Report}
    (hbase : base.WellFormed) (hcolumns : s.columns = [])
    (hplan : s.plan .here (.ofFrame base) = (ds, .ok p))
    (hnames : (p.groupKeys ++ p.metricNames).Nodup)
    (hfilter : ∀ c ∈ s.filter, ∀ name ∈ c.dependencies, s.Unbucketed name)
    (hmetrics : ∀ m ∈ s.metrics, ∀ name ∈ m.dependencies, s.Unbucketed name)
    (hhaving : ∀ c ∈ s.having, ∀ name ∈ c.dependencies, name ∉ p.slicerKeys)
    (h : (ofFrame base).report s = (ds, .ok r)) :
    ∃ f, ds.frame = .ok f ∧ ∀ slice ∈ r.slices, ∃ ds',
      (ofFrame (base.take (f.rowsWith p.slicerKeys slice.key))).report { s with slicers := [] } =
        (ds', .ok ⟨[], [⟨[], slice.table⟩]⟩) := by
  have hmetricNames := Spec.metricNames_of_plan hplan
  have hpcolumns := Spec.columnKeys_of_plan hcolumns hplan
  obtain ⟨hkeys, hmeasures⟩ := Plan.not_mem_slicerKeys hnames
  have hnames' := Plan.nodup_slicerKeys_nil hnames
  -- the whole report
  obtain ⟨t, ht, hpivot⟩ := exists_grouped_of_report hplan h
  rw [Spec.pivot_of_grouped hmetricNames hpcolumns hnames ht] at hpivot
  obtain rfl := Except.ok.inj hpivot
  obtain ⟨f, _, _, _, _, hf, -⟩ := Spec.grouped_eq_ok_iff.mp ht
  have hwf : f.WellFormed := wellFormed_frame ((Spec.base_of_plan hplan).symm ▸ hbase) hf
  refine ⟨f, hf, ?_⟩
  intro slice hslice
  obtain ⟨key, hkey, rfl⟩ := List.mem_map.mp hslice
  rw [mem_sortKeys] at hkey
  -- the report of the rows of the slice
  obtain ⟨ds', f', hplan', hf', hagree⟩ :=
    Spec.exists_plan_part hbase hplan hf (f.rowsWith p.slicerKeys key)
  obtain ⟨u, hu, hrows⟩ := Spec.exists_grouped_slice hwf hf (hmetricNames ▸ hnames) ht hkey hf'
    hagree (fun name hname => Spec.unbucketed_of_not_mem hplan (hkeys name hname)) hfilter
    (Spec.dependencies_of_plannedMeasures hmetrics) hhaving
  have huwf : u.WellFormed := (Spec.wellFormed_of_grouped (p := { p with slicerKeys := [] })
    (hmetricNames ▸ hnames') hu).1
  have hpivoted := Frame.pivoted_slice huwf hpcolumns
    (fun name hname => hkeys name (List.mem_append_left _ hname)) hmeasures hrows
  refine ⟨ds', ?_⟩
  rw [report_eq hplan' hu, Spec.pivot_single (p := { p with slicerKeys := [] }) hmetricNames
    hpcolumns rfl hnames' hu, hpivoted]
  rfl

/-- What was sold in two cities on four days. -/
def soldByDay : Frame :=
  ⟨[⟨"city", [.text "oslo", .text "bonn", .text "oslo", .text "bonn"]⟩,
    ⟨"day", [.date ⟨2024, 1, 5, rfl⟩, .date ⟨2024, 1, 20, rfl⟩, .date ⟨2024, 2, 1, rfl⟩,
      .date ⟨2024, 1, 31, rfl⟩]⟩,
    ⟨"sold", [.int 4, .int 2, .int 3, .int (-9)]⟩], 4⟩

/-- The sums of each city month by month, without returns, from three on. -/
def sumsByMonth : Spec where
  rows := [{ name := "city" }]
  slicers := [{ name := "day", timeGrain := some "month" }]
  metrics := [.row "sum" .sum (.column "sold")]
  filter := some (.compare .gt (.column "sold") (.literal (.int 0)))
  having := some (.compare .ge (.column "sum") (.literal (.int 3)))
  totals := true

/-- The dataset with the months of its days. -/
def soldByMonth : Dataset :=
  ⟨soldByDay, [⟨"__day@month__", [.date ⟨2024, 1, 1, rfl⟩, .date ⟨2024, 1, 1, rfl⟩,
    .date ⟨2024, 2, 1, rfl⟩, .date ⟨2024, 1, 1, rfl⟩]⟩]⟩

/-- The plan of this report. -/
def monthPlan : Plan := ⟨.here, ["city"], [], ["__day@month__"], ["sum"]⟩

/-- The grouped table of this report. -/
def monthSums : Frame :=
  ⟨[⟨"city", [.text "oslo", .text "oslo"]⟩,
    ⟨"__day@month__", [.date ⟨2024, 1, 1, rfl⟩, .date ⟨2024, 2, 1, rfl⟩]⟩,
    ⟨"sum", [.int 4, .int 3]⟩], 2⟩

/-- The table of January. -/
def januarySums : Table :=
  ⟨["city"], ["sum"], [⟨.values [.text "oslo"], [some (.int 4)]⟩, ⟨.total, [some (.int 4)]⟩]⟩

theorem finish_january :
    (monthSums.pivoted monthPlan [.date ⟨2024, 1, 1, rfl⟩]).finish sumsByMonth = januarySums := by
  have hone : sortKeys [[.text "oslo"]] = [[.text "oslo"]] := List.mergeSort_singleton _
  have hpivoted : monthSums.pivoted monthPlan [.date ⟨2024, 1, 1, rfl⟩] =
      ⟨["city"], ["sum"], [⟨.values [.text "oslo"], [some (.int 4)]⟩]⟩ := by
    show (⟨_, _, (sortKeys [[.text "oslo"]]).map _⟩ : Table) = _
    rw [hone]
    rfl
  rw [hpivoted]
  show (⟨_, _, List.mergeSort [_] _ ++ [_]⟩ : Table) = _
  rw [List.mergeSort_singleton]
  rfl

/-- The table of January is the report of its three days. -/
theorem report_slice_january :
    ∃ r ds, (ofFrame soldByDay).report sumsByMonth = (soldByMonth, .ok r) ∧
      ⟨[.date ⟨2024, 1, 1, rfl⟩], januarySums⟩ ∈ r.slices ∧
      (ofFrame (soldByDay.take [0, 1, 3])).report { sumsByMonth with slicers := [] } =
        (ds, .ok ⟨[], [⟨[], januarySums⟩]⟩) := by
  have hplan : sumsByMonth.plan .here (ofFrame soldByDay) = (soldByMonth, .ok monthPlan) := rfl
  have hgrouped : sumsByMonth.grouped soldByMonth monthPlan = .ok monthSums := rfl
  have hreport := (report_eq hplan hgrouped).trans (congrArg (Prod.mk soldByMonth)
    (Spec.pivot_of_grouped rfl rfl (by decide) hgrouped sumsByMonth))
  have hjanuary : (⟨[.date ⟨2024, 1, 1, rfl⟩], januarySums⟩ : Slice) ∈
      (sortKeys (monthSums.tuples ["__day@month__"])).map fun slice =>
        ⟨slice, (monthSums.pivoted monthPlan slice).finish sumsByMonth⟩ :=
    List.mem_map.mpr ⟨[.date ⟨2024, 1, 1, rfl⟩], mem_sortKeys.mpr (by decide), by
      rw [finish_january]⟩
  -- the filter and the measure read nothing but what was sold
  have hread : ∀ name ∈ ["sold"], sumsByMonth.Unbucketed name := by
    intro name hname
    rw [List.mem_singleton.mp hname]
    exact Spec.unbucketed_of_not_mem hplan (by decide)
  have hfilter : ∀ c ∈ sumsByMonth.filter, ∀ name ∈ c.dependencies,
      sumsByMonth.Unbucketed name := by
    rintro _ ⟨⟩
    exact hread
  have hmetrics : ∀ m ∈ sumsByMonth.metrics, ∀ name ∈ m.dependencies,
      sumsByMonth.Unbucketed name := by
    intro m hm
    rw [List.mem_singleton.mp hm]
    exact hread
  have hhaving : ∀ c ∈ sumsByMonth.having, ∀ name ∈ c.dependencies,
      name ∉ monthPlan.slicerKeys := by
    rintro _ ⟨⟩
    decide
  obtain ⟨f, hf, hslices⟩ := report_slice (by decide) rfl hplan (by decide) hfilter hmetrics hhaving
    hreport
  obtain rfl : _ = f := Except.ok.inj hf
  obtain ⟨ds, hds⟩ := hslices _ hjanuary
  exact ⟨_, ds, hreport, hjanuary, hds⟩

end Dataset

end Crosstab
