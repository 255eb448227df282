import Crosstab.Proofs.Report.Buckets

/-!
# What planning attaches

A dataset is well formed if its base is and its derived columns have names of their own and the
length of the base (`Dataset.WellFormed`).  Such a dataset always has a table, attaching to it never
fails, and what is planned over it, be it with success or not, leaves it well formed.

So planning a dimension fails for the dimension only: for a column that the base does not have, or
for its grain (`Dataset.WellFormed.resolveAll_here`).  Whatever was planned over a base before, the
dataset shows the base with the buckets of some dimensions (`Dataset.Grown`).
-/

namespace Crosstab

namespace Dataset

/-- Derived columns have names of their own and the length of a well-formed base. -/
structure WellFormed (ds : Dataset) : Prop where
  base : ds.base.WellFormed
  nodup_names : (ds.base.names ++ ds.derived.map (·.name)).Nodup
  length_values : ∀ c ∈ ds.derived, c.values.length = ds.base.len

/-- The columns of the base, and behind them the derived ones. -/
def table (ds : Dataset) : Frame := ⟨ds.base.columns ++ ds.derived, ds.base.len⟩

theorem table_ofFrame (f : Frame) : (ofFrame f).table = f := by
  rw [table, ofFrame, List.append_nil]

theorem wellFormed_ofFrame {f : Frame} (hf : f.WellFormed) : (ofFrame f).WellFormed where
  base := hf
  nodup_names := by simpa [ofFrame] using hf.nodup_names
  length_values := nofun

theorem mem_names_table {ds : Dataset} {name : String} :
    name ∈ ds.table.names ↔ name ∈ ds.base.names ∨ name ∈ ds.derived.map (·.name) := by
  rw [table, Frame.names, List.map_append, List.mem_append]
  rfl

theorem hasColumn_iff {ds : Dataset} {name : String} :
    ds.hasColumn name = true ↔ name ∈ ds.table.names := by
  rw [mem_names_table, ← Frame.hasColumn_iff]
  simp [hasColumn]

namespace WellFormed

variable {ds ds' : Dataset}

/-- A well-formed dataset has a table. -/
theorem frame_eq (h : ds.WellFormed) : ds.frame = .ok ds.table :=
  Frame.foldlM_insert_eq_ok h.nodup_names h.length_values

theorem shows (h : ds.WellFormed) : ds.Shows ds.table where
  base_wellFormed := h.base
  frame_eq := h.frame_eq
  len_eq := rfl
  hasColumn_iff _ := hasColumn_iff

theorem attach (h : ds.WellFormed) {c : Column} {attached : Bool}
    (hattach : ds.attach c = .ok (attached, ds')) : ds'.WellFormed := by
  unfold Dataset.attach at hattach
  split at hattach
  · obtain ⟨-, rfl⟩ := Prod.mk.inj (Except.ok.inj hattach)
    exact h
  · next hnew =>
    split at hattach
    · cases hattach
    · next hlen =>
      obtain ⟨-, rfl⟩ := Prod.mk.inj (Except.ok.inj hattach)
      rw [hasColumn_iff, mem_names_table, ← List.mem_append] at hnew
      refine ⟨h.base, ?_, ?_⟩
      · show (ds.base.names ++ (ds.derived ++ [c]).map (·.name)).Nodup
        rw [List.map_append, ← List.append_assoc]
        simpa using List.Nodup.concat hnew h.nodup_names
      · intro d hd
        rcases List.mem_append.mp hd with hd | hd
        · exact h.length_values d hd
        · rw [List.mem_singleton.mp hd]
          exact not_not.mp hlen

/-- What is planned for a dimension leaves the dataset well formed, over the same base. -/
theorem resolve (h : ds.WellFormed) {site : Site} {d : Dimension} {key : String}
    (hresolve : Plan.resolve site ds d = .ok (key, ds')) :
    ds'.WellFormed ∧ ds'.base = ds.base := by
  unfold Plan.resolve at hresolve
  split at hresolve
  · obtain ⟨⟨key', buckets⟩, -, hresolve⟩ := bind_eq_ok_iff.mp hresolve
    cases buckets with
    | none =>
      obtain ⟨-, rfl⟩ := Prod.mk.inj (pure_eq_ok_iff.mp hresolve)
      exact ⟨h, rfl⟩
    | some c =>
      obtain ⟨⟨attached, ds₁⟩, hattach, hresolve⟩ := bind_eq_ok_iff.mp hresolve
      obtain ⟨-, rfl⟩ := Prod.mk.inj (pure_eq_ok_iff.mp hresolve)
      exact ⟨h.attach hattach, base_of_attach hattach⟩
  · obtain ⟨key', -, hresolve⟩ := bind_eq_ok_iff.mp hresolve
    obtain ⟨-, rfl⟩ := Prod.mk.inj (pure_eq_ok_iff.mp hresolve)
    exact ⟨h, rfl⟩

/-- Planning a dimension fails for the column of the dimension or its grain, and else attaches its
buckets. -/
theorem resolve_here (h : ds.WellFormed) (d : Dimension) :
    (∃ e, (do let _ ← ds.base.require d.name; d.keyName) = .error e ∧
      Plan.resolve .here ds d = .error e) ∨
    ∃ key ds', (do let _ ← ds.base.require d.name; d.keyName) = .ok key ∧
      Plan.resolve .here ds d = .ok (key, ds') ∧ ds'.WellFormed ∧ ds'.base = ds.base ∧
      ∀ name, ds'.table.column? name = (ds.table.column? name).or (d.bucket? ds.base name) := by
  cases hsource : ds.base.require d.name with
  | error e =>
    refine .inl ⟨e, rfl, ?_⟩
    rw [Plan.resolve_here, Dimension.resolve, hsource]
    rfl
  | ok source =>
    simp only [ok_bind]
    cases hkey : d.keyName with
    | error e =>
      refine .inl ⟨e, rfl, ?_⟩
      rw [Plan.resolve_here, Dimension.resolve, hsource]
      cases hgrain : d.grain with
      | error e' =>
        rw [Dimension.keyName, hgrain] at hkey
        obtain rfl : e' = e := Except.error.inj hkey
        rfl
      | ok grain =>
        obtain ⟨key, hkey'⟩ := Dimension.exists_keyName hgrain
        rw [hkey'] at hkey
        cases hkey
    | ok key =>
      obtain ⟨ds', f', hresolve, hbase, hshows, hcolumn⟩ :=
        h.shows.resolve (Frame.mem_names_of_require hsource) hkey
      have hwf := (h.resolve hresolve).1
      obtain rfl := Except.ok.inj (hshows.frame_eq.symm.trans hwf.frame_eq)
      exact .inr ⟨key, ds', rfl, hresolve, hwf, hbase, hcolumn⟩

/-- Planning some dimensions attaches the buckets of those up to the first that fails. -/
theorem resolveAll_here (h : ds.WellFormed) (dims : List Dimension) :
    ∃ ds' planned, Plan.resolveAll .here ds dims =
        (ds', dims.mapM fun d => do let _ ← ds.base.require d.name; d.keyName) ∧
      ds'.WellFormed ∧ ds'.base = ds.base ∧ planned <+: dims ∧
      ∀ name, ds'.table.column? name =
        (ds.table.column? name).or (planned.findSome? fun d => d.bucket? ds.base name) := by
  induction dims generalizing ds with
  | nil =>
    refine ⟨ds, [], rfl, h, rfl, List.prefix_rfl, ?_⟩
    intro name
    rw [List.findSome?_nil, Option.or_none]
  | cons d rest ih =>
    rw [List.mapM_cons, Plan.resolveAll]
    rcases h.resolve_here d with ⟨e, hkey, hresolve⟩ |
      ⟨key, ds₁, hkey, hresolve, hwf, hbase, hcolumn⟩
    · rw [hkey, hresolve]
      refine ⟨ds, [], rfl, h, rfl, List.nil_prefix, ?_⟩
      intro name
      rw [List.findSome?_nil, Option.or_none]
    · obtain ⟨ds₂, planned, hall, hwf₂, hbase₂, hprefix, hcolumn₂⟩ := ih hwf
      rw [hkey, hresolve]
      dsimp only
      rw [hall, hbase, ok_bind]
      refine ⟨ds₂, d :: planned, ?_, hwf₂, hbase₂.trans hbase,
        List.cons_prefix_cons.mpr ⟨rfl, hprefix⟩, ?_⟩
      · cases rest.mapM fun d => (do let _ ← ds.base.require d.name; d.keyName) <;> rfl
      · intro name
        rw [hcolumn₂, hcolumn, hbase, Option.or_assoc, Dimension.findSome?_bucket?_cons]

/-- The table of a dataset over which some dimensions are planned has the buckets of all of them. -/
theorem column?_of_resolveAll (h : ds.WellFormed) {dims : List Dimension} {keys : List String}
    (hall : Plan.resolveAll .here ds dims = (ds', .ok keys)) :
    ds'.WellFormed ∧ ∀ name, ds'.table.column? name =
      (ds.table.column? name).or (dims.findSome? fun d => d.bucket? ds.base name) := by
  obtain ⟨ds₁, planned, hall₁, hwf, -, -, -⟩ := h.resolveAll_here dims
  obtain rfl : ds₁ = ds' := (Prod.mk.inj (hall₁.symm.trans hall)).1
  obtain ⟨ds₂, f, hall₂, -, hshows, hcolumn⟩ := h.shows.resolveAll
    (Plan.mem_names_of_resolveAll hall).1 (Plan.mapM_keyName_of_resolveAll hall)
  obtain rfl : ds₂ = ds₁ := (Prod.mk.inj (hall₂.symm.trans hall)).1
  obtain rfl := Except.ok.inj (hshows.frame_eq.symm.trans hwf.frame_eq)
  exact ⟨hwf, hcolumn⟩

end WellFormed

/-! ## Datasets that were planned over -/

/-- The dataset shows a base, and of other columns the buckets of some dimensions over it. -/
structure Grown (base : Frame) (ds : Dataset) : Prop where
  wellFormed : ds.WellFormed
  base_eq : ds.base = base
  exists_buckets : ∃ dims : List Dimension, ∀ name, ds.table.column? name =
    (base.column? name).or (dims.findSome? fun d => d.bucket? base name)

theorem grown_ofFrame {base : Frame} (hbase : base.WellFormed) : (ofFrame base).Grown base where
  wellFormed := wellFormed_ofFrame hbase
  base_eq := rfl
  exists_buckets := by
    refine ⟨[], ?_⟩
    intro name
    rw [List.findSome?_nil, Option.or_none, table_ofFrame]

/-- Whatever is planned over such a dataset, for whatever site and with whatever outcome, leaves it
such a dataset. -/
theorem Grown.plan {base : Frame} {ds : Dataset} (h : ds.Grown base) (site : Site) (s : Spec) :
    (s.plan site ds).1.Grown base := by
  have hhere : (Plan.resolveAll .here ds s.dimensions).1.Grown base := by
    obtain ⟨ds', planned, hall, hwf, hbase, -, hcolumn⟩ :=
      h.wellFormed.resolveAll_here s.dimensions
    obtain ⟨dims, hdims⟩ := h.exists_buckets
    rw [hall]
    refine ⟨hwf, hbase.trans h.base_eq, dims ++ planned, ?_⟩
    intro name
    rw [hcolumn, hdims, h.base_eq, List.findSome?_append, Option.or_assoc]
  unfold Spec.plan
  cases s.validate with
  | error e => exact h
  | ok _ =>
    cases site with
    | here => exact hhere
    | embedded =>
      rw [Plan.resolveAll_embedded]
      exact hhere
    | warehouse =>
      rw [Plan.resolveAll_warehouse_eq]
      exact h

end Dataset

end Crosstab
