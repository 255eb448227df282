import Crosstab.Report.Grouped
import Crosstab.Proofs.Expr.Aggregate
import Crosstab.Proofs.Frame.Building

/-!
# What the grouped table holds

The grouped table of a report is told here row by row and group by group, without the order in which
it is computed.  A row `Passes` a condition if the condition is true in that row alone.  Then
`Spec.GroupTable` says of a table that

* it has one row for each tuple of keys that occurs among the rows that pass the filter, and one
  row of no keys if nothing is grouped by;
* the cell of a measure is that of the measure for a table of only the rows that pass and have the
  tuple, in their order, taken as one group.

That `Spec.grouped` computes such a table and keeps of it the rows that pass the filter of groups is
`Spec.exists_groupTable`.
-/

namespace Crosstab

/-! ## Filters -/

/-- A condition, if there is one, is true in a row. -/
def Passes (filter : Option Condition) (row : NamedCells) : Prop :=
  ∀ p ∈ filter, Predicate.Holds Clause.Holds row p (some true)

theorem passes_none (row : NamedCells) : Passes none row := nofun

namespace Frame

theorem mem_kept {mask : List Bool} {i : Nat} : i ∈ kept mask ↔ mask[i]? = some true := by
  simp only [kept, List.mem_filterMap, Prod.exists, List.mem_zipIdx_iff_getElem?]
  constructor
  · rintro ⟨keep, j, hj, h⟩
    split at h
    · next hkeep =>
      obtain rfl := Option.some.inj h
      rw [hj, hkeep]
    · nomatch h
  · intro h
    exact ⟨true, i, h, rfl⟩

theorem pairwise_kept (mask : List Bool) : (kept mask).Pairwise (· < ·) := by
  have hplaces : mask.zipIdx.Pairwise fun a b => a.2 < b.2 := by
    rw [← List.pairwise_map (f := Prod.snd), List.zipIdx_map_snd]
    exact List.pairwise_lt_range'
  refine List.Pairwise.filterMap _ ?_ hplaces
  rintro ⟨x, i⟩ ⟨y, j⟩ hij k hk l hl
  obtain ⟨_, rfl⟩ : x = true ∧ i = k := by simpa using hk
  obtain ⟨_, rfl⟩ : y = true ∧ j = l := by simpa using hl
  exact hij

/-- What a filter keeps are the rows that pass it. -/
theorem restrict_eq_ok {f g : Frame} {filter : Option Condition} (hf : f.WellFormed)
    (h : f.restrict filter = .ok g) :
    ∃ rows, f.Selects (fun i => Passes filter (f.row i)) rows ∧ g = f.take rows := by
  cases filter with
  | none =>
    obtain rfl := Except.ok.inj h
    exact ⟨List.range f.len, ⟨List.pairwise_lt_range, by simp [passes_none]⟩, (take_range hf).symm⟩
  | some p =>
    obtain ⟨mask, hmask, h⟩ := bind_eq_ok_iff.mp h
    obtain ⟨ts, hts, hmask⟩ := bind_eq_ok_iff.mp hmask
    obtain rfl := pure_eq_ok_iff.mp hmask
    have hfollows := Predicate.eval_follows Clause.eval_follows hf p hts
    refine ⟨_, ⟨pairwise_kept _, ?_⟩, (pure_eq_ok_iff.mp h).symm⟩
    intro i
    have hkept : i ∈ kept (ts.map fun t => t == some true) ↔ ts[i]? = some (some true) := by
      simp [mem_kept]
    rw [hkept]
    constructor
    · intro ht
      have hi : i < f.len := by
        rw [← hfollows.length_eq]
        exact (List.getElem?_eq_some_iff.mp ht).1
      refine ⟨hi, ?_⟩
      intro q hq
      obtain rfl := Option.mem_some_iff.mp hq
      exact (hfollows.means_iff ht _).mpr rfl
    · rintro ⟨hi, hpass⟩
      obtain ⟨t, ht⟩ := hfollows.exists_getElem? hi
      rw [ht, (hfollows.means_iff ht _).mp (hpass p rfl)]

theorem wellFormed_restrict {f g : Frame} {filter : Option Condition} (hf : f.WellFormed)
    (h : f.restrict filter = .ok g) : g.WellFormed := by
  obtain ⟨rows, -, rfl⟩ := restrict_eq_ok hf h
  exact wellFormed_take hf rows

end Frame

/-! ## Keys and measures as columns -/

theorem map_name_keyColumns (keys : List String) (groups : List Frame.Group) :
    (keyColumns keys groups).map (·.name) = keys := by
  rw [keyColumns, List.map_map]
  exact List.zipIdx_map_fst 0 keys

theorem length_values_keyColumns {keys : List String} {groups : List Frame.Group} {c : Column}
    (h : c ∈ keyColumns keys groups) : c.values.length = groups.length := by
  obtain ⟨_, _, rfl⟩ := List.mem_map.mp h
  rw [List.length_map]

/-- The tuple of a row in a table with the columns of some keys is the key of the group. -/
theorem tuple_of_keyColumns {keys : List String} {groups : List Frame.Group} {t : Frame}
    (ht : t.WellFormed) (hcolumns : ∀ c ∈ keyColumns keys groups, c ∈ t.columns) {j : Nat}
    {g : Frame.Group} (hg : groups[j]? = some g) (hlen : g.1.length = keys.length) :
    t.tuple keys j = g.1 := by
  refine List.ext_getElem (by rw [Frame.tuple, List.length_map, hlen]) ?_
  intro i _ hi
  have hkey : i < keys.length := hlen ▸ hi
  have hcolumn : (⟨keys[i], groups.map fun g => g.1.getD i .null⟩ : Column) ∈
      keyColumns keys groups := by
    refine List.mem_map.mpr ⟨(keys[i], i), ?_, rfl⟩
    exact List.mk_mem_zipIdx_iff_getElem?.mpr (List.getElem?_eq_getElem hkey)
  have hcell := Frame.cellAt_of_mem ht (hcolumns _ hcolumn) j
  simp only [Frame.tuple, List.getElem_map]
  rw [hcell]
  simp [List.getD_eq_getElem?_getD, hg, hi]

namespace Measure

variable {m : Measure} {f : Frame} {groups : List Frame.Group} {c : Column}

theorem column_eq_ok (h : m.column f groups = .ok c) :
    c.name = m.name ∧ m.aggregate.eval f (groups.map (·.2)) = .ok c.values := by
  obtain ⟨cells, hcells, h⟩ := bind_eq_ok_iff.mp h
  obtain rfl := pure_eq_ok_iff.mp h
  exact ⟨rfl, hcells⟩

theorem length_of_column (h : m.column f groups = .ok c) : c.values.length = groups.length := by
  rw [Aggregate.length_of_eval (column_eq_ok h).2, List.length_map]

end Measure

namespace Spec

/-- The measures that a report computes: its own, or the number of rows. -/
def plannedMeasures (s : Spec) : List Measure :=
  match s.metrics with
  | [] => [.group Plan.countName .countRows]
  | metrics => metrics

theorem map_name_plannedMeasures (s : Spec) :
    s.plannedMeasures.map (·.name) = s.plannedMetrics := by
  unfold plannedMeasures plannedMetrics metricNames
  cases s.metrics <;> rfl

theorem measureColumns_eq (s : Spec) (f : Frame) (groups : List Frame.Group) :
    s.measureColumns f groups = s.plannedMeasures.mapM fun m => m.column f groups := by
  unfold measureColumns plannedMeasures
  cases s.metrics with
  | nil => simp [Measure.column, Measure.aggregate, Aggregate.eval, Measure.name, pure, Except.pure]
  | cons m rest => rfl

/-! ## The grouped table -/

/-- A table of the groups of the rows of `f` that pass the filter, before groups are filtered. -/
structure GroupTable (s : Spec) (keys : List String) (f t : Frame) : Prop where
  /-- Rows are grouped by columns that are there. -/
  mem_names : ∀ name ∈ keys, name ∈ f.names
  wellFormed : t.WellFormed
  names_eq : t.names = keys ++ s.plannedMetrics
  /-- No two rows have one tuple of keys. -/
  distinct : t.DistinctOn keys
  /-- The tuples are those of the rows that pass, and the empty one if there are no keys. -/
  exists_tuple_iff : ∀ key, (∃ j < t.len, t.tuple keys j = key) ↔
    keys = [] ∧ key = [] ∨ ∃ i < f.len, Passes s.filter (f.row i) ∧ f.tuple keys i = key
  /-- The measures of a row are those of the rows with its tuple, taken alone. -/
  measures : ∀ j < t.len, ∃ rows,
    f.Selects (fun i => Passes s.filter (f.row i) ∧ f.tuple keys i = t.tuple keys j) rows ∧
    ∀ m ∈ s.plannedMeasures,
      m.aggregate.eval (f.take rows) [List.range rows.length] = .ok [t.cellAt m.name j]

/-- Without keys there is one group, whatever passes. -/
theorem GroupTable.len_eq_one {s : Spec} {f t : Frame} (h : s.GroupTable [] f t) : t.len = 1 := by
  obtain ⟨j, hj, _⟩ := (h.exists_tuple_iff []).mpr (.inl ⟨rfl, rfl⟩)
  have hsame : ∀ k < t.len, k = 0 := fun k hk =>
    h.distinct k hk 0 (Nat.lt_of_le_of_lt (Nat.zero_le j) hj) rfl
  have hlast := hsame (t.len - 1) (by omega)
  omega

/-! ## Computing it -/

section

variable {s : Spec} {keys : List String} {f t : Frame} {groups : List Frame.Group}
  {measures : List Column}

theorem map_name_measureColumns (h : s.measureColumns f groups = .ok measures) :
    measures.map (·.name) = s.plannedMetrics := by
  rw [measureColumns_eq] at h
  rw [← map_name_plannedMeasures]
  exact map_eq_map_of_mapM_eq_ok (fun _ _ hc => (Measure.column_eq_ok hc).1) h

/-- The columns of keys and measures make a table, in which no column hides another one. -/
theorem exists_table (hnames : (keys ++ s.plannedMetrics).Nodup)
    (h : s.measureColumns f groups = .ok measures) :
    ∃ t, (keyColumns keys groups ++ measures).foldlM Frame.insert (Frame.withLen groups.length) =
        .ok t ∧
      t.WellFormed ∧ t.columns = keyColumns keys groups ++ measures ∧ t.len = groups.length := by
  have hall : (keyColumns keys groups ++ measures).map (·.name) = keys ++ s.plannedMetrics := by
    rw [List.map_append, map_name_keyColumns, map_name_measureColumns h]
  have hlen : ∀ c ∈ keyColumns keys groups ++ measures, c.values.length = groups.length := by
    intro c hc
    rcases List.mem_append.mp hc with hc | hc
    · exact length_values_keyColumns hc
    · rw [measureColumns_eq] at h
      obtain ⟨i, hi⟩ := List.mem_iff_getElem?.mp hc
      obtain ⟨m, _, hm⟩ := getElem?_of_mapM_eq_ok h hi
      exact Measure.length_of_column hm
  have hnodup : ([] ++ (keyColumns keys groups ++ measures).map Column.name).Nodup := hall ▸ hnames
  have hbuilt := Frame.foldlM_insert_eq_ok (f := Frame.withLen groups.length) hnodup hlen
  have hwf := Frame.wellFormed_foldlM_insert (Frame.wellFormed_withLen _) hbuilt
  exact ⟨_, hbuilt, hwf, rfl, rfl⟩

/-- The cell of a measure is that of the rows of the group alone. -/
theorem eval_group_of_measureColumns (hf : f.WellFormed)
    (h : s.measureColumns f groups = .ok measures) (ht : t.WellFormed)
    (hcolumns : ∀ c ∈ measures, c ∈ t.columns) {j : Nat} {g : Frame.Group}
    (hg : groups[j]? = some g) (hrows : ∀ i ∈ g.2, i < f.len) {m : Measure}
    (hm : m ∈ s.plannedMeasures) :
    m.aggregate.eval (f.take g.2) [List.range g.2.length] = .ok [t.cellAt m.name j] := by
  rw [measureColumns_eq] at h
  obtain ⟨c, hc, hcolumn⟩ := exists_mem_of_mapM_eq_ok h hm
  obtain ⟨hname, hcells⟩ := Measure.column_eq_ok hcolumn
  have hj : j < c.values.length := by
    rw [Measure.length_of_column hcolumn]
    exact (List.getElem?_eq_some_iff.mp hg).1
  rw [← hname, Frame.cellAt_of_mem ht (hcolumns c hc)]
  exact Aggregate.eval_group hf hcells (Frame.getElem?_eq_getD hj .null) (by simp [hg]) hrows

/-- The row of a group has the key of the group. -/
theorem tuple_of_group (ht : t.WellFormed) (hcolumns : ∀ c ∈ keyColumns keys groups, c ∈ t.columns)
    (hgroups : groups = (f.tuples keys).map fun key => (key, f.rowsWith keys key)) {j : Nat}
    {key : List Cell} (hkey : (f.tuples keys)[j]? = some key) :
    groups[j]? = some (key, f.rowsWith keys key) ∧ t.tuple keys j = key := by
  have hgroup : groups[j]? = some (key, f.rowsWith keys key) := by
    rw [hgroups, List.getElem?_map, hkey, Option.map_some]
  exact ⟨hgroup, tuple_of_keyColumns ht hcolumns hgroup
    (Frame.length_of_mem_tuples (List.mem_of_getElem? hkey))⟩

/-- Different groups have different keys. -/
theorem distinctOn_of_groups (ht : t.WellFormed)
    (hcolumns : ∀ c ∈ keyColumns keys groups, c ∈ t.columns) (hlen : t.len = groups.length)
    (hgroups : groups = (f.tuples keys).map fun key => (key, f.rowsWith keys key)) :
    t.DistinctOn keys := by
  have hlen' : t.len = (f.tuples keys).length := by rw [hlen, hgroups, List.length_map]
  intro j hj k hk heq
  have hj' := tuple_of_group ht hcolumns hgroups (List.getElem?_eq_getElem (hlen' ▸ hj))
  have hk' := tuple_of_group ht hcolumns hgroups (List.getElem?_eq_getElem (hlen' ▸ hk))
  rw [hj'.2, hk'.2] at heq
  exact (List.Nodup.getElem_inj_iff (Frame.nodup_tuples f keys)).mp heq

/-- A table with the columns of keys and measures of the rows that pass is the table of groups. -/
theorem groupTable_of_columns {rows : List Nat} (hf : f.WellFormed)
    (hrows : f.Selects (fun i => Passes s.filter (f.row i)) rows)
    (hkeys : ∀ name ∈ keys, name ∈ f.names)
    (hgroups : groups =
      ((f.take rows).tuples keys).map fun key => (key, (f.take rows).rowsWith keys key))
    (h : s.measureColumns (f.take rows) groups = .ok measures) (ht : t.WellFormed)
    (hcolumns : t.columns = keyColumns keys groups ++ measures) (hlen : t.len = groups.length) :
    s.GroupTable keys f t := by
  have hlen' : t.len = ((f.take rows).tuples keys).length := by
    rw [hlen, hgroups, List.length_map]
  have hkeyColumns : ∀ c ∈ keyColumns keys groups, c ∈ t.columns := fun c hc =>
    hcolumns ▸ List.mem_append_left _ hc
  have hmeasures : ∀ c ∈ measures, c ∈ t.columns := fun c hc =>
    hcolumns ▸ List.mem_append_right _ hc
  refine ⟨hkeys, ht, ?_, distinctOn_of_groups ht hkeyColumns hlen hgroups, ?_, ?_⟩
  · rw [Frame.names, hcolumns, List.map_append, map_name_keyColumns, map_name_measureColumns h]
  · intro key
    rw [← hrows.mem_tuples_iff]
    constructor
    · rintro ⟨j, hj, rfl⟩
      have hkey := List.getElem?_eq_getElem (hlen' ▸ hj)
      rw [(tuple_of_group ht hkeyColumns hgroups hkey).2]
      exact List.mem_of_getElem? hkey
    · intro hkey
      obtain ⟨j, hj⟩ := List.mem_iff_getElem?.mp hkey
      exact ⟨j, hlen' ▸ (List.getElem?_eq_some_iff.mp hj).1,
        (tuple_of_group ht hkeyColumns hgroups hj).2⟩
  · intro j hj
    obtain ⟨key, hkey⟩ : ∃ key, ((f.take rows).tuples keys)[j]? = some key :=
      ⟨_, List.getElem?_eq_getElem (hlen' ▸ hj)⟩
    obtain ⟨hgroup, htuple⟩ := tuple_of_group ht hkeyColumns hgroups hkey
    have hmembers := Frame.Selects.rowsWith (f.take rows) keys key
    refine ⟨((f.take rows).rowsWith keys key).map fun j => rows.getD j 0, ?_, ?_⟩
    · rw [htuple]
      refine hrows.comp hmembers ?_
      intro i j hij
      rw [Frame.tuple_take hij]
    · intro m hm
      rw [← Frame.take_take f hmembers.lt_len, List.length_map]
      exact eval_group_of_measureColumns (Frame.wellFormed_take hf rows) h ht hmeasures hgroup
        hmembers.lt_len hm

end

/-- The steps in which a grouped table is computed. -/
theorem grouped_eq_ok_iff {s : Spec} {ds : Dataset} {p : Plan} {t : Frame} :
    s.grouped ds p = .ok t ↔ ∃ f f' groups measures t₀, ds.frame = .ok f ∧
      f.restrict s.filter = .ok f' ∧ f'.groups p.groupKeys = .ok groups ∧
      s.measureColumns f' groups = .ok measures ∧
      (keyColumns p.groupKeys groups ++ measures).foldlM Frame.insert
        (Frame.withLen groups.length) = .ok t₀ ∧
      t₀.restrict s.having = .ok t := by
  simp only [grouped, bind_eq_ok_iff, exists_and_left]

/-- **What the grouped table holds.**  Where keys and measures have different names, the table that
is computed has a row for each tuple of keys among the rows that pass the filter, with the measures
of the rows of that tuple alone.  Of its rows those stay that pass the filter of groups. -/
theorem exists_groupTable {s : Spec} {ds : Dataset} {p : Plan} {t : Frame}
    (hds : ds.base.WellFormed) (hnames : (p.groupKeys ++ s.plannedMetrics).Nodup)
    (h : s.grouped ds p = .ok t) :
    ∃ f t₀ rows, ds.frame = .ok f ∧ s.GroupTable p.groupKeys f t₀ ∧
      t₀.Selects (fun j => Passes s.having (t₀.row j)) rows ∧ t = t₀.take rows ∧
      (s.having = none → t = t₀) ∧ (p.groupKeys = [] → t₀.len = 1) := by
  obtain ⟨f, f', groups, measures, t₀, hframe, hf', hgroups, hmeasures, ht₀, h⟩ :=
    grouped_eq_ok_iff.mp h
  have hf := Dataset.wellFormed_frame hds hframe
  obtain ⟨passing, hpassing, rfl⟩ := Frame.restrict_eq_ok hf hf'
  have hkeys : ∀ name ∈ p.groupKeys, name ∈ f.names := by
    intro name hname
    rw [← Frame.names_take f passing]
    exact Frame.mem_names_of_groups hgroups name hname
  have hgroups' := Frame.groups_eq_ok fun name hname =>
    (Frame.names_take f passing).symm ▸ hkeys name hname
  obtain ⟨t₁, ht₁, hwf, hcolumns, hlen⟩ := exists_table hnames hmeasures
  obtain rfl : t₁ = t₀ := Except.ok.inj (ht₁.symm.trans ht₀)
  have htable := groupTable_of_columns hf hpassing hkeys
    (Except.ok.inj (hgroups.symm.trans hgroups')) hmeasures hwf hcolumns hlen
  obtain ⟨rows, hrows, rfl⟩ := Frame.restrict_eq_ok hwf h
  refine ⟨f, t₁, rows, hframe, htable, hrows, rfl, ?_, ?_⟩
  · intro hnone
    rw [hnone] at h
    exact (Except.ok.inj h).symm
  · intro hnil
    rw [hnil] at htable
    exact htable.len_eq_one

/-- What pivoting needs of a grouped table: it is well formed, has a column for each name, and no
two of its rows have one tuple of keys. -/
theorem wellFormed_of_grouped {s : Spec} {ds : Dataset} {p : Plan} {t : Frame}
    (hnames : (p.groupKeys ++ s.plannedMetrics).Nodup) (h : s.grouped ds p = .ok t) :
    t.WellFormed ∧ t.names = p.groupKeys ++ s.plannedMetrics ∧ t.DistinctOn p.groupKeys := by
  obtain ⟨f, f', groups, measures, t₀, _, _, hgroups, hmeasures, ht₀, h⟩ := grouped_eq_ok_iff.mp h
  obtain ⟨t₁, ht₁, hwf, hcolumns, hlen⟩ := exists_table hnames hmeasures
  obtain rfl : t₁ = t₀ := Except.ok.inj (ht₁.symm.trans ht₀)
  have hgroups' := Frame.groups_eq_ok (Frame.mem_names_of_groups hgroups)
  have hdistinct := distinctOn_of_groups hwf (fun c hc => hcolumns ▸ List.mem_append_left _ hc) hlen
    (Except.ok.inj (hgroups.symm.trans hgroups'))
  obtain ⟨rows, hrows, rfl⟩ := Frame.restrict_eq_ok hwf h
  refine ⟨Frame.wellFormed_take hwf rows, ?_, hrows.distinctOn_take hdistinct⟩
  rw [Frame.names_take, Frame.names, hcolumns, List.map_append, map_name_keyColumns,
    map_name_measureColumns hmeasures]

/-- Sales in two cities. -/
def sales : Frame :=
  ⟨[⟨"city", [.text "oslo", .text "bonn", .text "oslo", .text "bonn"]⟩,
    ⟨"sold", [.int 4, .int 2, .int 3, .int (-9)]⟩], 4⟩

/-- The sums of what was sold in each city, without returns, from five on. -/
def salesByCity : Spec where
  rows := [{ name := "city" }]
  metrics := [.row "sum" .sum (.column "sold")]
  filter := some (.compare .gt (.column "sold") (.literal (.int 0)))
  having := some (.compare .ge (.column "sum") (.literal (.int 5)))

/-- Only one of the cities sold enough. -/
theorem exists_groupTable_salesByCity :
    ∃ t rows, salesByCity.GroupTable ["city"] sales t ∧
      t.Selects (fun j => Passes salesByCity.having (t.row j)) rows ∧
      t.take rows = ⟨[⟨"city", [.text "oslo"]⟩, ⟨"sum", [.int 7]⟩], 1⟩ := by
  have hgrouped : salesByCity.grouped (.ofFrame sales) (salesByCity.planOf .here ["city"]) =
      .ok ⟨[⟨"city", [.text "oslo"]⟩, ⟨"sum", [.int 7]⟩], 1⟩ := rfl
  obtain ⟨f, t, rows, hframe, htable, hrows, ht, _⟩ :=
    exists_groupTable (by decide) (by decide) hgrouped
  obtain rfl := Except.ok.inj ((Dataset.frame_ofFrame sales).symm.trans hframe)
  exact ⟨t, rows, htable, hrows, ht.symm⟩

end Spec

end Crosstab
