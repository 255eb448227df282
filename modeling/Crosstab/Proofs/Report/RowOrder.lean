import Crosstab.Proofs.Report.History
import Crosstab.Proofs.Report.Shuffled

/-!
# Reports do not depend on the order of rows

The order of the rows of a dataset shows in its groups, in what reductions make of them, and in the
rows of the grouped table.  It does not show in the report, if cells of one kind are grouped by, the
columns of the report have different names, and no measure looks at the order of the rows of a group
(`Dataset.report_take_of_perm`).

Planning over the rows in another order makes the same plan, and the table is the same in that order
(`Spec.exists_plan_take`).  So the grouped table is shuffled, and pivoting does not tell.
-/

namespace Crosstab

namespace Dataset

/-- The rows of a dataset at some positions, in the order of the positions. -/
def take (ds : Dataset) (rows : List Nat) : Dataset :=
  ⟨ds.base.take rows, ds.derived.map (·.take rows)⟩

theorem table_take (ds : Dataset) (rows : List Nat) :
    (ds.take rows).table = ds.table.take rows := by
  simp only [table, take, Frame.take, List.map_append]
  rfl

theorem WellFormed.take {ds : Dataset} (h : ds.WellFormed) (rows : List Nat) :
    (ds.take rows).WellFormed where
  base := Frame.wellFormed_take h.base rows
  nodup_names := by
    have hderived : (ds.derived.map (·.take rows)).map (·.name) = ds.derived.map (·.name) := by
      rw [List.map_map]
      rfl
    rw [Dataset.take, Frame.names_take, hderived]
    exact h.nodup_names
  length_values := by
    intro c hc
    obtain ⟨d, -, rfl⟩ := List.mem_map.mp hc
    exact List.length_map _

end Dataset

namespace Spec

variable {s : Spec} {p : Plan} {ds ds' : Dataset} {t : Frame}

/-- Planning over some rows makes the same plan, and the table is that of the dataset at these
rows. -/
theorem exists_plan_take (hds : ds.WellFormed) (h : s.plan .here ds = (ds', .ok p))
    (rows : List Nat) :
    ∃ ds'', s.plan .here (ds.take rows) = (ds'', .ok p) ∧ ds''.WellFormed ∧
      (ds'.table.take rows).AgreeOn (fun _ => True) ds''.table := by
  obtain ⟨hvalid, keys, hall, hkeys, rfl⟩ := plan_eq_ok h
  obtain ⟨-, hcolumn⟩ := hds.column?_of_resolveAll hall
  have hnames : ∀ d ∈ s.dimensions, d.name ∈ (ds.take rows).base.names := by
    intro d hd
    rw [Dataset.take, Frame.names_take]
    exact (Plan.mem_names_of_resolveAll hall).1 d hd
  obtain ⟨ds'', -, hall', hbase, -, -⟩ := (hds.take rows).shows.resolveAll hnames hkeys
  obtain ⟨hwf, hcolumn'⟩ := (hds.take rows).column?_of_resolveAll hall'
  refine ⟨ds'', ?_, hwf, ?_, ?_⟩
  · rw [plan, hvalid, hall']
    rfl
  · rw [Dataset.table, hbase]
    rfl
  · intro name _
    rw [hcolumn', Dataset.table_take, Frame.column?_take, Frame.column?_take, hcolumn,
      Option.map_or, Dataset.take, Dimension.findSome?_bucket?_take]

/-- Keys of one kind are of one kind in the grouped table. -/
theorem oneKind_of_grouped {f : Frame} (hf : f.WellFormed) (hframe : ds.frame = .ok f)
    (hnames : (p.groupKeys ++ s.plannedMetrics).Nodup) (h : s.grouped ds p = .ok t)
    (hkinds : f.OneKind p.groupKeys) : t.OneKind p.groupKeys := by
  obtain ⟨f₀, passing, measures, t₀, hframe₀, hpassing, -, hassembles, ht⟩ :=
    exists_assembles_of_grouped hnames h
  obtain rfl := Except.ok.inj (hframe.symm.trans hframe₀)
  obtain ⟨rows, hrows, rfl⟩ := Frame.restrict_eq_ok hf hpassing
  obtain ⟨kept, hkept, rfl⟩ := Frame.restrict_eq_ok hassembles.wellFormed ht
  -- a row of the grouped table holds the keys of a row of the table
  have hrow : ∀ j < (t₀.take kept).len, ∀ name ∈ p.groupKeys,
      ∃ i < f.len, ∀ other ∈ p.groupKeys, (t₀.take kept).cellAt other j = f.cellAt other i := by
    intro j hj name hname
    have hget : kept[j]? = some kept[j] := List.getElem?_eq_getElem hj
    have hplace := hkept.lt_len _ (List.mem_of_getElem? hget)
    rcases hrows.mem_tuples_iff.mp (hassembles.tuple_eq hplace).1 with ⟨hnil, -⟩ | ⟨i, hi, -, heq⟩
    · rw [hnil] at hname
      exact nomatch hname
    · refine ⟨i, hi, ?_⟩
      intro other hother
      rw [Frame.cellAt_take hget]
      exact (List.map_inj_left.mp heq other hother).symm
  intro name hname j hj k hk
  obtain ⟨i, hi, hcell⟩ := hrow j hj name hname
  obtain ⟨i', hi', hcell'⟩ := hrow k hk name hname
  rw [hcell name hname, hcell' name hname]
  exact hkinds name hname i hi i' hi'

/-- A grouped table of different names can be pivoted. -/
theorem pivotable_of_grouped (hmetrics : p.metricNames = s.plannedMetrics)
    (hnames : (p.groupKeys ++ p.metricNames).Nodup) (h : s.grouped ds p = .ok t)
    (hdiffer : t.NamesDiffer p) : t.WellFormed ∧ t.Pivotable p := by
  obtain ⟨hwf, htnames, hdistinct⟩ := wellFormed_of_grouped (hmetrics ▸ hnames) h
  refine ⟨hwf, ?_, ?_, (List.nodup_append.mp hnames).2.1, hdistinct, hdiffer⟩
  · exact fun name hname => htnames ▸ List.mem_append_left _ hname
  · exact fun name hname => htnames ▸ List.mem_append_right _ (hmetrics ▸ hname)

theorem unordered_of_plannedMeasures {f : Frame} {groups : List (List Nat)}
    (h : ∀ m ∈ s.metrics, m.aggregate.Unordered f groups) :
    ∀ m ∈ s.plannedMeasures, m.aggregate.Unordered f groups := by
  unfold plannedMeasures
  cases hmetrics : s.metrics with
  | nil =>
    intro m hm
    rw [List.mem_singleton.mp hm]
    trivial
  | cons m rest => rwa [hmetrics] at h

end Spec

namespace Dataset

variable {s : Spec} {p : Plan} {ds ds' : Dataset} {r : Report}

/-- **Reports do not depend on the order of rows.**  Where keys and measures have different names,
each key column holds cells of one kind, the columns of the report have different names, and no
measure looks at the order of the rows of a group: a report that can be made is the same over the
rows of the dataset in any order. -/
theorem report_take_of_perm {rows : List Nat} (hds : ds.WellFormed)
    (hrows : rows.Perm (List.range ds.base.len)) (hplan : s.plan .here ds = (ds', .ok p))
    (hnames : (p.groupKeys ++ p.metricNames).Nodup) (hkinds : ds'.table.OneKind p.groupKeys)
    (hunordered : ∀ passing, ds'.table.restrict s.filter = .ok passing → ∀ m ∈ s.metrics,
      m.aggregate.Unordered passing ((passing.tupleGroups p.groupKeys).map (·.2)))
    (hdiffer : ∀ t, s.grouped ds' p = .ok t → t.NamesDiffer p)
    (h : ds.report s = (ds', .ok r)) : ((ds.take rows).report s).2 = .ok r := by
  have hmetrics := Spec.metricNames_of_plan hplan
  have hnames' : (p.groupKeys ++ s.plannedMetrics).Nodup := hmetrics ▸ hnames
  obtain ⟨hvalid, keys, hall, -, -⟩ := Spec.plan_eq_ok hplan
  have hwf := (hds.column?_of_resolveAll hall).1
  have htable : ds'.table.WellFormed := wellFormed_frame hwf.base hwf.frame_eq
  have hlen : ds'.table.len = ds.base.len := by
    rw [table, Spec.base_of_plan hplan]
  obtain ⟨t, ht, hpivot⟩ := exists_grouped_of_report hplan h
  obtain ⟨hgrouped, hpivotable⟩ := Spec.pivotable_of_grouped hmetrics hnames ht (hdiffer t ht)
  have hkinds' := Spec.oneKind_of_grouped htable hwf.frame_eq hnames' ht hkinds
  -- the grouped table of the rows in the other order
  have hshuffled : ds'.table.Shuffled (ds'.table.take rows) := ⟨rows, hlen.symm ▸ hrows, rfl⟩
  obtain ⟨u, hu, hfu⟩ := Spec.exists_grouped_shuffled htable hwf.frame_eq
    (frame_ofFrame (ds'.table.take rows)) hshuffled hnames'
    (fun passing hpassing => Spec.unordered_of_plannedMeasures (hunordered passing hpassing)) ht
  obtain ⟨ds'', hplan'', hwf'', hagree⟩ := Spec.exists_plan_take hds hplan rows
  have hcomputed : s.computed ds'' p = s.computed (.ofFrame (ds'.table.take rows)) p :=
    Spec.computed_congr (frame_ofFrame _) hwf''.frame_eq hagree (fun _ _ => trivial)
      (fun _ _ _ _ => trivial) fun _ _ _ _ => trivial
  have hreport : ((ds.take rows).report s).2 = s.computed ds'' p := by
    rw [report, hplan'']
    rfl
  rw [hreport, hcomputed, Spec.computed, hu, ok_bind,
    Frame.pivot_eq_of_sameRows hgrouped hpivotable hkinds' hfu.sameRows, hpivot]

/-- What was sold of two kinds in two cities. -/
def soldByKind : Frame :=
  ⟨[⟨"city", [.text "oslo", .text "bonn", .text "oslo", .text "bonn"]⟩,
    ⟨"kind", [.text "old", .text "new", .text "new", .text "new"]⟩,
    ⟨"sold", [.int 4, .int 2, .null, .int (-9)]⟩], 4⟩

/-- How much was sold, the most that was sold at once, and how often. -/
def mostByKind : Spec where
  rows := [{ name := "city" }]
  columns := [{ name := "kind" }]
  metrics := [.row "sum" .sum (.column "sold"), .row "most" .max (.column "sold"),
    .group "sales" .countRows]
  totals := true

/-- The plan of this report. -/
def kindPlan : Plan := ⟨.here, ["city"], ["kind"], [], ["sum", "most", "sales"]⟩

/-- The grouped table of this report. -/
def kindTable : Frame :=
  ⟨[⟨"city", [.text "oslo", .text "bonn", .text "oslo"]⟩,
    ⟨"kind", [.text "old", .text "new", .text "new"]⟩,
    ⟨"sum", [.int 4, .int (-7), .null]⟩, ⟨"most", [.int 4, .int 2, .null]⟩,
    ⟨"sales", [.int 1, .int 2, .int 1]⟩], 3⟩

/-- The sales in another order make the same report. -/
theorem report_take_mostByKind :
    ∃ r, (ofFrame soldByKind).report mostByKind = (ofFrame soldByKind, .ok r) ∧
      (((ofFrame soldByKind).take [3, 1, 0, 2]).report mostByKind).2 = .ok r := by
  have hplan : mostByKind.plan .here (ofFrame soldByKind) = (ofFrame soldByKind, .ok kindPlan) :=
    rfl
  have hgrouped : mostByKind.grouped (ofFrame soldByKind) kindPlan = .ok kindTable := rfl
  have hdiffer : kindTable.NamesDiffer kindPlan := by decide +kernel
  obtain ⟨r, hreport⟩ :
      ∃ r, (ofFrame soldByKind).report mostByKind = (ofFrame soldByKind, .ok r) := by
    rw [report_eq hplan hgrouped, Frame.pivot_eq_ok mostByKind (by decide) (by decide)
      (Frame.nodup_map_labelName (by decide) hdiffer)]
    exact ⟨_, rfl⟩
  refine ⟨r, hreport, ?_⟩
  refine report_take_of_perm (wellFormed_ofFrame (by decide)) (by decide) hplan (by decide)
    (by decide) ?_ ?_ hreport
  · intro passing hpassing m hm
    obtain rfl : soldByKind = passing := Except.ok.inj hpassing
    have hcases : m = .row "sum" .sum (.column "sold") ∨ m = .row "most" .max (.column "sold") ∨
        m = .group "sales" .countRows := by
      simpa [mostByKind] using hm
    rcases hcases with rfl | rfl | rfl
    · intro cells hcells
      obtain rfl : [.int 4, .int 2, .null, .int (-9)] = cells := Except.ok.inj hcells
      decide
    · intro cells hcells
      obtain rfl : [.int 4, .int 2, .null, .int (-9)] = cells := Except.ok.inj hcells
      decide
    · trivial
  · intro t ht
    obtain rfl := Except.ok.inj (hgrouped.symm.trans ht)
    exact hdiffer

end Dataset

end Crosstab
