import Crosstab.Proofs.Frame.Agree
import Crosstab.Proofs.Report.Plan
import Mathlib.Data.List.GetD

/-!
# The table of a planned report

Planning attaches a column of buckets for every dimension with a time grain, unless a column has its
name.  So the table of the dataset shows, for a name, the column of the base and else the buckets of
the dimension whose they are (`Dataset.Shows.resolveAll`).  Buckets are computed row by row, and
planning a report without slicers over some rows of the base therefore gives the table of these
rows, but for the buckets of the slicers (`Spec.exists_plan_part`).
-/

namespace Crosstab

namespace Dimension

/-- The buckets of a dimension over a table, for the name of their column. -/
def bucket? (d : Dimension) (base : Frame) (name : String) : Option Column :=
  match d.grain with
  | .ok (some g) =>
    if bucketName d.name g = name then
      (base.column? d.name).map fun source => ⟨name, source.values.map g.bucket⟩
    else none
  | _ => none

theorem bucket?_of_plain {d : Dimension} (h : d.grain = .ok none) (base : Frame) (name : String) :
    d.bucket? base name = none := by
  rw [bucket?, h]

theorem bucket?_of_bucket {d : Dimension} {g : TimeGrain} (h : d.grain = .ok (some g))
    (base : Frame) (name : String) : d.bucket? base name =
      if bucketName d.name g = name then
        (base.column? d.name).map fun source => ⟨name, source.values.map g.bucket⟩
      else none := by
  rw [bucket?, h]

/-- The buckets of some rows are those of the table at these rows. -/
theorem bucket?_take (d : Dimension) (base : Frame) (rows : List Nat) (name : String) :
    d.bucket? (base.take rows) name = (d.bucket? base name).map fun c =>
      ⟨c.name, rows.map fun i => c.values.getD i .null⟩ := by
  unfold bucket?
  split
  · next g _ =>
    split
    · rw [Frame.column?_take, Option.map_map, Option.map_map]
      congr 1
      funext source
      have hcells : ∀ i, g.bucket (source.values.getD i .null) =
          (source.values.map g.bucket).getD i .null := fun i =>
        (List.getD_map source.values .null g.bucket).symm
      simp only [Function.comp_apply, List.map_map, Column.mk.injEq, true_and]
      exact List.map_congr_left fun i _ => hcells i
    · rfl
  · rfl

/-- So are the buckets of the first dimension that has some. -/
theorem findSome?_bucket?_take (dims : List Dimension) (base : Frame) (rows : List Nat)
    (name : String) : (dims.findSome? fun d => d.bucket? (base.take rows) name) =
      (dims.findSome? fun d => d.bucket? base name).map fun c =>
        ⟨c.name, rows.map fun i => c.values.getD i .null⟩ := by
  simp only [bucket?_take, List.map_findSome?]
  rfl

theorem findSome?_bucket?_cons (d : Dimension) (dims : List Dimension) (base : Frame)
    (name : String) : ((d :: dims).findSome? fun d => d.bucket? base name) =
      (d.bucket? base name).or (dims.findSome? fun d => d.bucket? base name) := by
  rw [List.findSome?_cons]
  cases d.bucket? base name with
  | none => rw [Option.none_or]
  | some c => rw [Option.some_or]

end Dimension

/-- Where the data is there, planning a dimension attaches its buckets. -/
theorem Plan.resolve_here (ds : Dataset) (d : Dimension) :
    resolve .here ds d = (do
      let (key, buckets) ← d.resolve ds.base
      match buckets with
      | none => return (key, ds)
      | some c => return (key, (← ds.attach c).2)) := if_pos rfl

/-! ## What a dataset shows -/

/-- The table of a dataset over a well-formed base, with the columns that the dataset has. -/
structure Dataset.Shows (ds : Dataset) (f : Frame) : Prop where
  base_wellFormed : ds.base.WellFormed
  frame_eq : ds.frame = .ok f
  len_eq : f.len = ds.base.len
  hasColumn_iff : ∀ name, ds.hasColumn name = true ↔ name ∈ f.names

namespace Dataset

theorem shows_ofFrame {f : Frame} (hf : f.WellFormed) : (ofFrame f).Shows f where
  base_wellFormed := hf
  frame_eq := rfl
  len_eq := rfl
  hasColumn_iff name := by
    rw [← Frame.hasColumn_iff]
    simp [hasColumn, ofFrame]

namespace Shows

variable {ds : Dataset} {f : Frame}

theorem wellFormed (h : ds.Shows f) : f.WellFormed :=
  wellFormed_frame h.base_wellFormed h.frame_eq

/-- A column is attached unless there is one of its name. -/
theorem attach (h : ds.Shows f) {c : Column} (hlen : c.values.length = ds.base.len) :
    ∃ attached ds' f', ds.attach c = .ok (attached, ds') ∧ ds'.base = ds.base ∧ ds'.Shows f' ∧
      ∀ name, f'.column? name = (f.column? name).or (if c.name = name then some c else none) := by
  by_cases hc : ds.hasColumn c.name = true
  · refine ⟨false, ds, f, attach_of_hasColumn hc, rfl, h, ?_⟩
    intro name
    by_cases hname : c.name = name
    · obtain ⟨d, hd⟩ := Frame.exists_require ((h.hasColumn_iff c.name).mp hc)
      rw [← hname, Frame.require_eq_ok_iff.mp hd, Option.some_or]
    · rw [if_neg hname, Option.or_none]
  · have hnew : c.name ∉ f.names := fun hmem => hc ((h.hasColumn_iff c.name).mpr hmem)
    have hattach : ds.attach c = .ok (true, ⟨ds.base, ds.derived ++ [c]⟩) := by
      rw [Dataset.attach, if_neg hc, if_neg (not_not.mpr hlen)]
    have hnodup : (f.names ++ [c].map (·.name)).Nodup := by
      refine List.nodup_append.mpr ⟨h.wellFormed.nodup_names, List.nodup_singleton _, ?_⟩
      intro name hname other hother
      rw [List.mem_singleton.mp hother]
      exact ne_of_mem_of_not_mem hname hnew
    have hinsert : [c].foldlM Frame.insert f = .ok ⟨f.columns ++ [c], f.len⟩ := by
      refine Frame.foldlM_insert_eq_ok hnodup ?_
      intro d hd
      rw [List.mem_singleton.mp hd, hlen, h.len_eq]
    have hframe : Dataset.frame ⟨ds.base, ds.derived ++ [c]⟩ = .ok ⟨f.columns ++ [c], f.len⟩ := by
      have hbase : ds.derived.foldlM Frame.insert ds.base = .ok f := h.frame_eq
      rw [frame, List.foldlM_append, hbase, ok_bind, hinsert]
    refine ⟨true, _, _, hattach, rfl, ⟨h.base_wellFormed, hframe, h.len_eq, ?_⟩, ?_⟩
    · intro name
      have hold := h.hasColumn_iff name
      simp only [hasColumn, Bool.or_eq_true, List.any_append, List.any_cons, List.any_nil,
        Bool.or_false, beq_iff_eq, Frame.names, List.map_append, List.map_cons, List.map_nil,
        List.mem_append, List.mem_singleton] at hold ⊢
      rw [← or_assoc, hold]
      exact or_congr_right eq_comm
    · intro name
      rw [Frame.column?, List.find?_append, Frame.column?]
      congr 1
      by_cases hname : c.name = name
      · simp [hname]
      · simp [hname]

/-- Planning a dimension adds its buckets. -/
theorem resolve (h : ds.Shows f) {d : Dimension} {key : String} (hname : d.name ∈ ds.base.names)
    (hkey : d.keyName = .ok key) :
    ∃ ds' f', Plan.resolve .here ds d = .ok (key, ds') ∧ ds'.base = ds.base ∧ ds'.Shows f' ∧
      ∀ name, f'.column? name = (f.column? name).or (d.bucket? ds.base name) := by
  obtain ⟨source, hsource⟩ := Frame.exists_require hname
  rw [Plan.resolve_here, Dimension.resolve, hsource, ok_bind]
  rcases Dimension.keyName_eq_ok_iff.mp hkey with ⟨hgrain, rfl⟩ | ⟨g, hgrain, rfl⟩
  · rw [hgrain]
    refine ⟨ds, f, rfl, rfl, h, ?_⟩
    intro name
    rw [Dimension.bucket?_of_plain hgrain, Option.or_none]
  · have hlen : (source.values.map g.bucket).length = ds.base.len := by
      rw [List.length_map, h.base_wellFormed.length_values _ (Frame.require_eq_ok hsource).1]
    obtain ⟨attached, ds', f', hattach, hbase, hshows, hcolumn⟩ :=
      h.attach (c := ⟨Dimension.bucketName d.name g, source.values.map g.bucket⟩) hlen
    rw [hgrain, ok_bind]
    dsimp only
    refine ⟨ds', f', ?_, hbase, hshows, ?_⟩
    · show (ds.attach _ >>= fun answer => pure (_, answer.2)) = _
      rw [hattach, ok_bind]
      rfl
    · intro name
      rw [hcolumn, Dimension.bucket?_of_bucket hgrain, Frame.require_eq_ok_iff.mp hsource]
      congr 1
      by_cases hname : Dimension.bucketName d.name g = name
      · simp [hname]
      · simp [hname]

/-- Planning some dimensions adds their buckets. -/
theorem resolveAll {dims : List Dimension} {keys : List String} (h : ds.Shows f)
    (hnames : ∀ d ∈ dims, d.name ∈ ds.base.names)
    (hkeys : dims.mapM Dimension.keyName = .ok keys) :
    ∃ ds' f', Plan.resolveAll .here ds dims = (ds', .ok keys) ∧ ds'.base = ds.base ∧
      ds'.Shows f' ∧ ∀ name, f'.column? name =
        (f.column? name).or (dims.findSome? fun d => d.bucket? ds.base name) := by
  induction dims generalizing ds f keys with
  | nil =>
    refine ⟨ds, f, Prod.ext rfl hkeys, rfl, h, ?_⟩
    intro name
    rw [List.findSome?_nil, Option.or_none]
  | cons d rest ih =>
    obtain ⟨key, more, hkey, hmore, rfl⟩ := mapM_cons_eq_ok_iff.mp hkeys
    obtain ⟨ds₁, f₁, hresolve, hbase₁, hshows₁, hcolumn₁⟩ :=
      h.resolve (hnames d List.mem_cons_self) hkey
    have hrest : ∀ e ∈ rest, e.name ∈ ds₁.base.names := by
      intro e he
      rw [hbase₁]
      exact hnames e (List.mem_cons_of_mem _ he)
    obtain ⟨ds₂, f₂, hall, hbase₂, hshows₂, hcolumn₂⟩ := ih hshows₁ hrest hmore
    refine ⟨ds₂, f₂, Plan.resolveAll_cons_eq_ok_iff.mpr ⟨key, ds₁, more, hresolve, hall, rfl⟩,
      hbase₂.trans hbase₁, hshows₂, ?_⟩
    intro name
    rw [hcolumn₂, hcolumn₁, hbase₁, Option.or_assoc, Dimension.findSome?_bucket?_cons]

end Shows

end Dataset

namespace Plan

variable {ds ds' : Dataset}

/-- A dimension that is planned here is a column of the base, which is kept. -/
theorem mem_names_of_resolve {d : Dimension} {key : String}
    (h : resolve .here ds d = .ok (key, ds')) : d.name ∈ ds.base.names ∧ ds'.base = ds.base := by
  rw [resolve_here] at h
  obtain ⟨⟨key', buckets⟩, hkey, h⟩ := bind_eq_ok_iff.mp h
  obtain ⟨source, hsource, _⟩ := bind_eq_ok_iff.mp hkey
  refine ⟨Frame.mem_names_of_require hsource, ?_⟩
  cases buckets with
  | none =>
    obtain ⟨_, rfl⟩ := Prod.mk.inj (pure_eq_ok_iff.mp h)
    rfl
  | some c =>
    obtain ⟨⟨attached, ds₁⟩, hattach, h⟩ := bind_eq_ok_iff.mp h
    obtain ⟨_, rfl⟩ := Prod.mk.inj (pure_eq_ok_iff.mp h)
    exact Dataset.base_of_attach hattach

theorem mem_names_of_resolveAll {dims : List Dimension} {keys : List String}
    (h : resolveAll .here ds dims = (ds', .ok keys)) :
    (∀ d ∈ dims, d.name ∈ ds.base.names) ∧ ds'.base = ds.base := by
  induction dims generalizing ds keys with
  | nil =>
    obtain ⟨rfl, -⟩ := Prod.mk.inj h
    exact ⟨nofun, rfl⟩
  | cons d rest ih =>
    obtain ⟨key, ds₁, more, hkey, hrest, rfl⟩ := resolveAll_cons_eq_ok_iff.mp h
    obtain ⟨hname, hbase⟩ := mem_names_of_resolve hkey
    obtain ⟨hnames, hbase'⟩ := ih hrest
    rw [hbase] at hnames hbase'
    exact ⟨List.forall_mem_cons.mpr ⟨hname, hnames⟩, hbase'⟩

end Plan

namespace Spec

/-- The name is not that of the buckets of a slicer. -/
def Unbucketed (s : Spec) (name : String) : Prop :=
  ∀ d ∈ s.slicers, ∀ g, d.grain = .ok (some g) → Dimension.bucketName d.name g ≠ name

variable {s : Spec}

/-- For other names, slicers have no buckets. -/
theorem Unbucketed.findSome?_eq_none {name : String} (h : s.Unbucketed name) (base : Frame) :
    (s.slicers.findSome? fun d => d.bucket? base name) = none := by
  rw [List.findSome?_eq_none_iff]
  intro d hd
  unfold Dimension.bucket?
  split
  · next g hg => rw [if_neg (h d hd g hg)]
  · rfl

theorem dimensions_eq_append (s : Spec) :
    s.dimensions = dimensions { s with slicers := [] } ++ s.slicers := by
  rw [dimensions, dimensions, List.append_nil]

/-- A report without its slicers passes the check that it passes with them. -/
theorem validate_slicers_nil (h : s.validate = .ok ()) :
    validate { s with slicers := [] } = .ok () := by
  obtain ⟨hnames, hgrains, hconditions⟩ := validate_eq_ok_iff.mp h
  rw [dimensions_eq_append] at hnames hgrains
  refine validate_eq_ok_iff.mpr ⟨?_, ?_, hconditions⟩
  · refine hnames.sublist ?_
    rw [List.map_append]
    exact (List.sublist_append_left _ _).append_right _
  · intro d hd
    exact hgrains d (List.mem_append_left _ hd)

/-- The plan without slicers has the keys of the other dimensions. -/
theorem planOf_slicers_nil {site : Site} {kept rest : List String}
    (h : kept.length = s.rows.length + s.columns.length) :
    planOf { s with slicers := [] } site kept =
      { s.planOf site (kept ++ rest) with slicerKeys := [] } := by
  have hrows : (kept ++ rest).take s.rows.length = kept.take s.rows.length :=
    List.take_append_of_le_length (by omega)
  have hcolumns : ((kept ++ rest).drop s.rows.length).take s.columns.length =
      (kept.drop s.rows.length).take s.columns.length := by
    rw [List.drop_append_of_le_length (by omega), List.take_append_of_le_length]
    rw [List.length_drop]
    omega
  have hslicers : kept.drop (s.rows.length + s.columns.length) = [] :=
    List.drop_eq_nil_of_le (Nat.le_of_eq h)
  simp only [planOf, hrows, hcolumns, hslicers]
  rfl

/-- Planning changes nothing of the base. -/
theorem base_of_plan {ds ds' : Dataset} {p : Plan} (h : s.plan .here ds = (ds', .ok p)) :
    ds'.base = ds.base := by
  obtain ⟨_, keys, hresolve, _⟩ := plan_eq_ok h
  exact (Plan.mem_names_of_resolveAll hresolve).2

/-- **Planning over some rows.**  A plan over a base makes a plan without slicers over some rows of
the base, and the table of its dataset agrees with these rows of the whole table on all names but
those of the buckets of slicers. -/
theorem exists_plan_part {base f : Frame} {ds : Dataset} {p : Plan} (hbase : base.WellFormed)
    (h : s.plan .here (.ofFrame base) = (ds, .ok p)) (hf : ds.frame = .ok f) (rows : List Nat) :
    ∃ ds' f', plan { s with slicers := [] } .here (.ofFrame (base.take rows)) =
        (ds', .ok { p with slicerKeys := [] }) ∧
      ds'.frame = .ok f' ∧ (f.take rows).AgreeOn s.Unbucketed f' := by
  obtain ⟨hvalid, keys, hresolve, hkeys, rfl⟩ := plan_eq_ok h
  have hnames := (Plan.mem_names_of_resolveAll hresolve).1
  -- the table of the whole dataset
  obtain ⟨ds₁, f₁, hresolve₁, -, hshows, hcolumn⟩ :=
    (Dataset.shows_ofFrame hbase).resolveAll hnames hkeys
  obtain rfl : ds₁ = ds := (Prod.mk.inj (hresolve₁.symm.trans hresolve)).1
  obtain rfl : f₁ = f := Except.ok.inj (hshows.frame_eq.symm.trans hf)
  -- the table of the part, planned without slicers
  rw [dimensions_eq_append, List.mapM_append] at hkeys
  obtain ⟨kept, rest, hkept, -, heq⟩ := bind_both_eq_ok_iff.mp hkeys
  obtain rfl := pure_eq_ok_iff.mp heq
  have hnames' : ∀ d ∈ dimensions { s with slicers := [] }, d.name ∈ (base.take rows).names := by
    intro d hd
    rw [Frame.names_take]
    refine hnames d ?_
    rw [dimensions_eq_append]
    exact List.mem_append_left _ hd
  obtain ⟨ds', f', hresolve', hbase', hshows', hcolumn'⟩ :=
    (Dataset.shows_ofFrame (Frame.wellFormed_take hbase rows)).resolveAll hnames' hkept
  have hlen : kept.length = s.rows.length + s.columns.length := by
    rw [length_of_mapM_eq_ok hkept, dimensions, List.append_nil, List.length_append]
  refine ⟨ds', f', ?_, hshows'.frame_eq, ?_, ?_⟩
  · rw [plan, validate_slicers_nil hvalid, hresolve', ← planOf_slicers_nil hlen]
    rfl
  · rw [hshows'.len_eq, hbase']
    rfl
  · intro name hname
    rw [hcolumn', Frame.column?_take f₁, hcolumn, dimensions_eq_append s, List.findSome?_append]
    dsimp only [Dataset.ofFrame]
    rw [hname.findSome?_eq_none base, Option.or_none, Option.map_or,
      Dimension.findSome?_bucket?_take, Frame.column?_take base]

end Spec

end Crosstab
