import Crosstab.Proofs.Expr.Reads
import Crosstab.Proofs.Report.Grouped

/-!
# The grouped table of a slice

Of the groups by some keys and more, those that end in one tuple of the further keys are the groups
by the first keys of the rows that have this tuple, in the same order (`Frame.tupleGroups_slice`).
Measures see the same rows either way.  So the rows of the grouped table that belong to a slice are
the grouped table of the rows of the slice, but for the columns of the further keys
(`Spec.exists_grouped_slice`).

Both filters keep rows one by one, and so they commute with choosing the rows of a slice
(`Frame.restrict_take_rowsWith`).
-/

namespace Crosstab

namespace Frame

/-! ## Filters on chosen rows -/

/-- What can be filtered can be filtered on some of its rows. -/
theorem exists_restrict_take {f g : Frame} {filter : Option Condition} (hf : f.WellFormed)
    (h : f.restrict filter = .ok g) {rows : List Nat} (hrows : ∀ i ∈ rows, i < f.len) :
    ∃ g', (f.take rows).restrict filter = .ok g' := by
  cases filter with
  | none => exact ⟨f.take rows, rfl⟩
  | some p =>
    obtain ⟨mask, hmask, -⟩ := bind_eq_ok_iff.mp h
    obtain ⟨ts, hts, -⟩ := bind_eq_ok_iff.mp hmask
    obtain ⟨us, hus⟩ := Predicate.eval_partOf Clause.eval_follows Clause.eval_restricts p hf
      (wellFormed_take hf rows) (partOf_take hrows) hts
    exact ⟨_, bind_eq_ok_iff.mpr ⟨_, bind_eq_ok_iff.mpr ⟨us, hus, rfl⟩, rfl⟩⟩

/-- Filtering the rows with a tuple gives the rows with this tuple that pass. -/
theorem restrict_take_rowsWith {f g : Frame} {filter : Option Condition} (hf : f.WellFormed)
    (h : f.restrict filter = .ok g) (keys : List String) (key : List Cell) :
    (f.take (f.rowsWith keys key)).restrict filter = .ok (g.take (g.rowsWith keys key)) := by
  have hmembers := Selects.rowsWith f keys key
  obtain ⟨g', hg'⟩ := exists_restrict_take hf h hmembers.lt_len
  obtain ⟨passing, hpassing, rfl⟩ := restrict_eq_ok hf h
  obtain ⟨inner, hinner, rfl⟩ := restrict_eq_ok (wellFormed_take hf _) hg'
  have hamong := Selects.rowsWith (f.take passing) keys key
  have hleft := hmembers.comp (R := fun i => Passes filter (f.row i)) hinner
    fun i j hij => by rw [row_take hij]
  have hright := hpassing.comp (R := fun i => f.tuple keys i = key) hamong
    fun i j hij => by rw [tuple_take hij]
  rw [hg', take_take f hinner.lt_len, take_take f hamong.lt_len,
    hleft.eq_of_selects (hright.congr fun _ _ => and_comm)]

/-- A filter fails for the same reason on tables that agree on what it reads, or keeps the same rows
of both. -/
theorem AgreeOn.restrict {N : String → Prop} {f g : Frame} {filter : Option Condition}
    (hfg : f.AgreeOn N g) (hN : ∀ p ∈ filter, ∀ name ∈ p.dependencies, N name) :
    (∃ e, f.restrict filter = .error e ∧ g.restrict filter = .error e) ∨
    ∃ f' g', f.restrict filter = .ok f' ∧ g.restrict filter = .ok g' ∧ f'.AgreeOn N g' := by
  cases filter with
  | none => exact .inr ⟨f, g, rfl, rfl, hfg⟩
  | some p =>
    have hmask := Condition.mask_congr (hN p rfl) hfg
    rw [Frame.restrict, Frame.restrict, hmask]
    cases p.mask f with
    | error e => exact .inl ⟨e, rfl, rfl⟩
    | ok mask => exact .inr ⟨f.filter mask, g.filter mask, rfl, rfl, hfg.take _⟩

/-- A filter keeps the same rows of tables that agree on what it reads. -/
theorem restrict_congr {N : String → Prop} {f f' g : Frame} {filter : Option Condition}
    (hN : ∀ p ∈ filter, ∀ name ∈ p.dependencies, N name) (hfg : f.AgreeOn N g)
    (h : f.restrict filter = .ok f') :
    ∃ g', g.restrict filter = .ok g' ∧ f'.AgreeOn N g' := by
  rcases hfg.restrict hN with ⟨e, he, -⟩ | ⟨f₁, g', hf₁, hg', hagree⟩
  · rw [he] at h
    exact nomatch h
  · obtain rfl := Except.ok.inj (hf₁.symm.trans h)
    exact ⟨g', hg', hagree⟩

/-! ## The groups of a slice -/

/-- The groups by some keys: the tuples that occur, with the positions of their rows. -/
def tupleGroups (f : Frame) (keys : List String) : List Group :=
  (f.tuples keys).map fun key => (key, f.rowsWith keys key)

theorem AgreeOn.tupleGroups_eq {N : String → Prop} {f g : Frame} (h : f.AgreeOn N g)
    {keys : List String} (hkeys : ∀ name ∈ keys, N name) :
    g.tupleGroups keys = f.tupleGroups keys := by
  rw [tupleGroups, tupleGroups, h.tuples_eq hkeys]
  refine List.map_congr_left ?_
  intro key _
  rw [h.rowsWith_eq hkeys]

/-- A row has a tuple of two lists of keys if it has the two parts. -/
theorem tuple_append_beq (f : Frame) {keys more : List String} {first : List Cell}
    (hfirst : first.length = keys.length) (last : List Cell) (i : Nat) :
    (f.tuple (keys ++ more) i == first ++ last) =
      (f.tuple keys i == first && f.tuple more i == last) := by
  have hlen : (f.tuple keys i).length = first.length := by rw [length_tuple, hfirst]
  rw [Bool.eq_iff_iff, tuple_append, Bool.and_eq_true, beq_iff_eq, beq_iff_eq, beq_iff_eq]
  exact ⟨fun h => List.append_inj h hlen, fun ⟨h, h'⟩ => by rw [h, h']⟩

/-- The rows of a group are rows of the slice, counted among these. -/
theorem rowsWith_append (f : Frame) {keys more : List String} {first : List Cell}
    (hfirst : first.length = keys.length) (last : List Cell) :
    f.rowsWith (keys ++ more) (first ++ last) =
      ((f.take (f.rowsWith more last)).rowsWith keys first).map
        fun j => (f.rowsWith more last).getD j 0 := by
  rw [map_rowsWith_take]
  unfold rowsWith
  rw [List.filter_filter]
  exact List.filter_congr fun i _ => f.tuple_append_beq hfirst last i

/-- The groups whose keys end in a tuple are the groups of the rows with this tuple. -/
theorem tupleGroups_slice (f : Frame) (keys more : List String) {last : List Cell}
    (hlast : last ∈ f.tuples more) :
    (f.tupleGroups (keys ++ more)).filter (fun g => g.1.drop keys.length == last) =
      ((f.take (f.rowsWith more last)).tupleGroups keys).map fun g =>
        (g.1 ++ last, g.2.map fun j => (f.rowsWith more last).getD j 0) := by
  have hfilter : (f.tupleGroups (keys ++ more)).filter (fun g => g.1.drop keys.length == last) =
      ((f.tuples (keys ++ more)).filter fun t => t.drop keys.length == last).map
        fun key => (key, f.rowsWith (keys ++ more) key) := List.filter_map
  rw [hfilter, filter_tuples_append f keys more hlast, tupleGroups, List.map_map, List.map_map]
  refine List.map_congr_left ?_
  intro first hfirst
  rw [Function.comp_apply, Function.comp_apply, f.rowsWith_append (length_of_mem_tuples hfirst)]

end Frame

/-! ## Columns of keys and measures -/

/-- The cells of a column at some positions. -/
def Column.take (c : Column) (rows : List Nat) : Column :=
  ⟨c.name, rows.map fun i => c.values.getD i .null⟩

theorem keyColumns_take (keys : List String) (groups : List Frame.Group) (places : List Nat) :
    (keyColumns keys groups).map (·.take places) =
      keyColumns keys (places.map fun k => groups.getD k ([], [])) := by
  rw [keyColumns, keyColumns, List.map_map]
  refine List.map_congr_left ?_
  rintro ⟨name, i⟩ _
  refine congrArg (Column.mk name) ?_
  rw [List.map_map]
  refine List.map_congr_left ?_
  intro k _
  exact List.getD_map groups ([], []) fun g : Frame.Group => g.1.getD i .null

/-- Of groups whose keys are longer by one tuple, the first keys have the columns that they have
without it. -/
theorem keyColumns_append (keys more : List String) {groups : List Frame.Group}
    (hlen : ∀ g ∈ groups, g.1.length = keys.length) (last : List Cell)
    (rowsOf : List Nat → List Nat) :
    ∃ rest : List Column, rest.map (·.name) = more ∧
      keyColumns (keys ++ more) (groups.map fun g => (g.1 ++ last, rowsOf g.2)) =
        keyColumns keys groups ++ rest := by
  refine ⟨(more.zipIdx keys.length).map fun entry =>
    ⟨entry.1, (groups.map fun g => (g.1 ++ last, rowsOf g.2)).map fun g => g.1.getD entry.2 .null⟩,
    ?_, ?_⟩
  · rw [List.map_map]
    exact List.zipIdx_map_fst keys.length more
  · rw [keyColumns, List.zipIdx_append, List.map_append, Nat.zero_add]
    congr 1
    refine List.map_congr_left ?_
    rintro ⟨name, i⟩ hi
    have hlt : i < keys.length := (List.getElem?_eq_some_iff.mp
      (List.mk_mem_zipIdx_iff_getElem?.mp hi)).1
    refine congrArg (Column.mk name) ?_
    rw [List.map_map]
    refine List.map_congr_left ?_
    intro g hg
    exact List.getD_append _ _ _ _ (hlen g hg ▸ hlt)

/-- A measure over the groups of a slice, where the slice is taken out of the table. -/
theorem Measure.column_take {m : Measure} {f g : Frame} {groups slice : List Frame.Group}
    {c : Column} {places rows : List Nat} (hf : f.WellFormed) (h : m.column f groups = .ok c)
    (hplaces : ∀ k ∈ places, k < groups.length) (hrows : ∀ i ∈ rows, i < f.len)
    (hslice : ∀ g ∈ slice, ∀ j ∈ g.2, j < rows.length)
    (hgroups : places.map (fun k => (groups.getD k ([], [])).2) =
      slice.map fun g => g.2.map fun j => rows.getD j 0)
    {N : String → Prop} (hN : ∀ name ∈ m.dependencies, N name) (hg : (f.take rows).AgreeOn N g) :
    m.column g slice = .ok (c.take places) := by
  obtain ⟨hname, hcells⟩ := column_eq_ok h
  have hplaces' : ∀ k ∈ places, k < (groups.map (·.2)).length := by
    simpa only [List.length_map] using hplaces
  have hchosen := Aggregate.eval_map_getD hcells hplaces'
  have hmembers : (places.map fun k => (groups.map (·.2)).getD k []) =
      (slice.map (·.2)).map fun rows' => rows'.map fun j => rows.getD j 0 := by
    rw [List.map_map]
    refine Eq.trans (List.map_congr_left ?_) hgroups
    intro k _
    exact List.getD_map groups ([], []) fun g : Frame.Group => g.2
  rw [hmembers] at hchosen
  have hslice' : ∀ rows' ∈ slice.map (·.2), ∀ j ∈ rows', j < rows.length := by
    intro rows' hrows'
    obtain ⟨g, hg, rfl⟩ := List.mem_map.mp hrows'
    exact hslice g hg
  have htaken := Aggregate.eval_take hf hrows hslice' hchosen
  rw [← Aggregate.eval_congr hN hg] at htaken
  exact bind_eq_ok_iff.mpr ⟨_, htaken, by rw [Column.take, hname]; rfl⟩

/-! ## The grouped table of a slice -/

namespace Spec

/-- A table has the columns of keys and measures of the groups of `f`, before groups are filtered. -/
structure Assembles (s : Spec) (keys : List String) (f t : Frame) (measures : List Column) :
    Prop where
  wellFormed : t.WellFormed
  measures_eq : s.measureColumns f (f.tupleGroups keys) = .ok measures
  columns_eq : t.columns = keyColumns keys (f.tupleGroups keys) ++ measures
  len_eq : t.len = (f.tupleGroups keys).length

namespace Assembles

variable {s : Spec} {f g t : Frame} {keys more : List String} {last : List Cell}
  {measures : List Column} {N : String → Prop}

/-- The tuple of a row is the key of the group at its place. -/
theorem tuple_eq (h : s.Assembles keys f t measures) {k : Nat} (hk : k < t.len) :
    t.tuple keys k ∈ f.tuples keys ∧ ((f.tupleGroups keys).getD k ([], [])).1 = t.tuple keys k := by
  have hkeyColumns : ∀ c ∈ keyColumns keys (f.tupleGroups keys), c ∈ t.columns := fun c hc =>
    h.columns_eq ▸ List.mem_append_left _ hc
  rw [h.len_eq, Frame.tupleGroups, List.length_map] at hk
  have hkey := List.getElem?_eq_getElem hk
  obtain ⟨hgroup, htuple⟩ := tuple_of_group h.wellFormed hkeyColumns rfl hkey
  rw [htuple, List.getD_eq_getElem?_getD, hgroup]
  exact ⟨List.mem_of_getElem? hkey, rfl⟩

/-- A slice has the key of some group. -/
theorem mem_tuples (h : s.Assembles (keys ++ more) f t measures) (hlast : last ∈ t.tuples more) :
    last ∈ f.tuples more := by
  rcases Frame.mem_tuples_iff.mp hlast with hnil | ⟨k, hk, rfl⟩
  · exact Frame.mem_tuples_iff.mpr (.inl hnil)
  · have hmem := Frame.drop_mem_tuples (h.tuple_eq hk).1
    rwa [Frame.tuple_append, List.drop_left' (t.length_tuple keys k)] at hmem

/-- The rows of a slice are those of the groups of its rows. -/
theorem map_rowsWith (h : s.Assembles (keys ++ more) f t measures) (hlast : last ∈ t.tuples more)
    (hkeys : ∀ name ∈ keys, N name) (hg : (f.take (f.rowsWith more last)).AgreeOn N g) :
    ((t.rowsWith more last).map fun k => (f.tupleGroups (keys ++ more)).getD k ([], [])) =
      (g.tupleGroups keys).map fun group =>
        (group.1 ++ last, group.2.map fun j => (f.rowsWith more last).getD j 0) := by
  rw [hg.tupleGroups_eq hkeys, ← f.tupleGroups_slice keys more (h.mem_tuples hlast),
    ← Frame.map_getD_filter_range (f.tupleGroups (keys ++ more)) ([], []), Frame.rowsWith, h.len_eq]
  congr 1
  refine List.filter_congr ?_
  intro k hk
  have hlt : k < t.len := h.len_eq ▸ List.mem_range.mp hk
  rw [(h.tuple_eq hlt).2, Frame.tuple_append, List.drop_left' (t.length_tuple keys k)]

/-- The measures of the rows of a slice are those of the groups of its rows. -/
theorem measureColumns_slice (h : s.Assembles (keys ++ more) f t measures) (hf : f.WellFormed)
    (hlast : last ∈ t.tuples more) (hkeys : ∀ name ∈ keys, N name)
    (hreads : ∀ m ∈ s.plannedMeasures, ∀ name ∈ m.dependencies, N name)
    (hg : (f.take (f.rowsWith more last)).AgreeOn N g) :
    s.measureColumns g (g.tupleGroups keys) =
      .ok (measures.map (·.take (t.rowsWith more last))) := by
  have hmeasures := h.measures_eq
  rw [measureColumns_eq] at hmeasures ⊢
  refine mapM_eq_ok_map_of ?_ hmeasures
  intro m hm c hc
  have hplaces : ∀ k ∈ t.rowsWith more last, k < (f.tupleGroups (keys ++ more)).length :=
    fun k hk => h.len_eq ▸ (Frame.mem_rowsWith.mp hk).1
  have hrows : ∀ i ∈ f.rowsWith more last, i < f.len := fun i hi => (Frame.mem_rowsWith.mp hi).1
  refine Measure.column_take hf hc hplaces hrows ?_ ?_ (hreads m hm) hg
  · intro group hgroup j hj
    obtain ⟨first, _, rfl⟩ := List.mem_map.mp hgroup
    have hlt := (Frame.mem_rowsWith.mp hj).1
    rwa [hg.len_eq] at hlt
  · have hgroups := congrArg (List.map Prod.snd) (h.map_rowsWith hlast hkeys hg)
    rwa [List.map_map, List.map_map] at hgroups

/-- **The groups of a slice.**  The rows of a slice in the table of groups are the table of groups
of its rows, but for the columns of the slicers. -/
theorem exists_slice (h : s.Assembles (keys ++ more) f t measures) (hf : f.WellFormed)
    (hnames : (keys ++ s.plannedMetrics).Nodup) (hlast : last ∈ t.tuples more)
    (hkeys : ∀ name ∈ keys, N name)
    (hreads : ∀ m ∈ s.plannedMeasures, ∀ name ∈ m.dependencies, N name)
    (hg : (f.take (f.rowsWith more last)).AgreeOn N g) :
    ∃ measures' u, s.measureColumns g (g.tupleGroups keys) = .ok measures' ∧
      (keyColumns keys (g.tupleGroups keys) ++ measures').foldlM Frame.insert
        (Frame.withLen (g.tupleGroups keys).length) = .ok u ∧
      (t.take (t.rowsWith more last)).AgreeOn (· ∉ more) u := by
  have hmeasures := h.measureColumns_slice hf hlast hkeys hreads hg
  obtain ⟨u, hu, -, hcolumns, hlen⟩ := exists_table hnames hmeasures
  refine ⟨_, u, hmeasures, hu, ?_⟩
  have hgroups := h.map_rowsWith hlast hkeys hg
  have hlengths : ∀ group ∈ g.tupleGroups keys, group.1.length = keys.length := by
    intro group hgroup
    obtain ⟨first, hfirst, rfl⟩ := List.mem_map.mp hgroup
    exact Frame.length_of_mem_tuples hfirst
  obtain ⟨rest, hrest, hkeyColumns⟩ := keyColumns_append keys more hlengths last fun rows =>
    rows.map fun j => (f.rowsWith more last).getD j 0
  have htaken : (t.take (t.rowsWith more last)).columns =
      keyColumns keys (g.tupleGroups keys) ++ rest ++
        measures.map (·.take (t.rowsWith more last)) := by
    show t.columns.map (·.take (t.rowsWith more last)) = _
    rw [h.columns_eq, List.map_append, keyColumns_take, hgroups, hkeyColumns]
  have hcount : u.len = (t.take (t.rowsWith more last)).len := by
    have hlengths := congrArg List.length hgroups
    rw [List.length_map, List.length_map] at hlengths
    rw [hlen, Frame.take_len, hlengths]
  refine (Frame.agreeOn_of_columns hcount htaken hcolumns).mono ?_
  intro name hname
  rwa [hrest]

end Assembles

/-- What is computed is assembled of the rows that pass the filter, and of its rows those are kept
that pass the filter of groups. -/
theorem exists_assembles_of_grouped {s : Spec} {ds : Dataset} {p : Plan} {t : Frame}
    (hnames : (p.groupKeys ++ s.plannedMetrics).Nodup) (h : s.grouped ds p = .ok t) :
    ∃ f passing measures t₀, ds.frame = .ok f ∧ f.restrict s.filter = .ok passing ∧
      (∀ name ∈ p.groupKeys, name ∈ passing.names) ∧
      s.Assembles p.groupKeys passing t₀ measures ∧ t₀.restrict s.having = .ok t := by
  obtain ⟨f, passing, groups, measures, t₀, hframe, hpassing, hgroups, hmeasures, ht₀, ht⟩ :=
    grouped_eq_ok_iff.mp h
  have hmem := Frame.mem_names_of_groups hgroups
  obtain rfl : groups = passing.tupleGroups p.groupKeys :=
    Except.ok.inj (hgroups.symm.trans (Frame.groups_eq_ok hmem))
  obtain ⟨t₁, ht₁, hwf, hcolumns, hlen⟩ := exists_table hnames hmeasures
  obtain rfl : t₁ = t₀ := Except.ok.inj (ht₁.symm.trans ht₀)
  exact ⟨f, passing, measures, t₁, hframe, hpassing, hmem, ⟨hwf, hmeasures, hcolumns, hlen⟩, ht⟩

/-- **The grouped table of a slice.**  The rows of a slice in the grouped table are the grouped
table of its rows of the dataset, but for the columns of the slicers. -/
theorem exists_grouped_slice {s : Spec} {ds ds' : Dataset} {p : Plan} {f f' t : Frame}
    {N : String → Prop} {slice : List Cell} (hf : f.WellFormed) (hframe : ds.frame = .ok f)
    (hnames : (p.groupKeys ++ s.plannedMetrics).Nodup) (h : s.grouped ds p = .ok t)
    (hslice : slice ∈ t.tuples p.slicerKeys) (hframe' : ds'.frame = .ok f')
    (hpart : (f.take (f.rowsWith p.slicerKeys slice)).AgreeOn N f')
    (hkeys : ∀ name ∈ p.rowKeys ++ p.columnKeys, N name)
    (hfilter : ∀ c ∈ s.filter, ∀ name ∈ c.dependencies, N name)
    (hreads : ∀ m ∈ s.plannedMeasures, ∀ name ∈ m.dependencies, N name)
    (hhaving : ∀ c ∈ s.having, ∀ name ∈ c.dependencies, name ∉ p.slicerKeys) :
    ∃ u, s.grouped ds' { p with slicerKeys := [] } = .ok u ∧
      (t.take (t.rowsWith p.slicerKeys slice)).AgreeOn (· ∉ p.slicerKeys) u := by
  obtain ⟨f₀, passing, measures, t₀, hframe₀, hpassing, hmem, hassembles, ht⟩ :=
    exists_assembles_of_grouped hnames h
  obtain rfl := Except.ok.inj (hframe.symm.trans hframe₀)
  have hwf := Frame.wellFormed_restrict hf hpassing
  have hslice₀ : slice ∈ t₀.tuples p.slicerKeys := by
    obtain ⟨rows, hrows, rfl⟩ := Frame.restrict_eq_ok hassembles.wellFormed ht
    rw [hrows.mem_tuples_iff] at hslice
    exact Frame.mem_tuples_iff.mpr (hslice.imp_right fun ⟨k, hk, _, heq⟩ => ⟨k, hk, heq⟩)
  -- the rows of the slice that pass, their groups, and the groups that pass
  obtain ⟨passing', hpassing', hagree⟩ :=
    Frame.restrict_congr hfilter hpart (Frame.restrict_take_rowsWith hf hpassing p.slicerKeys slice)
  have hnames' : (p.rowKeys ++ p.columnKeys ++ s.plannedMetrics).Nodup :=
    hnames.sublist ((List.sublist_append_left _ _).append_right _)
  obtain ⟨measures', u₀, hmeasures', hu₀, hagree₀⟩ :=
    hassembles.exists_slice hwf hnames' hslice₀ hkeys hreads hagree
  obtain ⟨u, hu, hagree'⟩ := Frame.restrict_congr hhaving hagree₀
    (Frame.restrict_take_rowsWith hassembles.wellFormed ht p.slicerKeys slice)
  have hgroupKeys : Plan.groupKeys { p with slicerKeys := [] } = p.rowKeys ++ p.columnKeys :=
    List.append_nil _
  have hmem' : ∀ name ∈ p.rowKeys ++ p.columnKeys, name ∈ passing'.names := by
    intro name hname
    rw [hagree.mem_names_iff (hkeys name hname), Frame.names_take]
    exact hmem name (List.mem_append_left _ hname)
  refine ⟨u, grouped_eq_ok_iff.mpr ⟨f', passing', passing'.tupleGroups (p.rowKeys ++ p.columnKeys),
    measures', u₀, hframe', hpassing', ?_, hmeasures', ?_, hu⟩, hagree'⟩
  · rw [hgroupKeys]
    exact Frame.groups_eq_ok hmem'
  · rwa [hgroupKeys]

end Spec

end Crosstab
