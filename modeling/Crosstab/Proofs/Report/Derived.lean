import Crosstab.Proofs.Report.History

/-!
# Derived columns

Whatever reports are planned over a fresh dataset, for whatever sites and whether they fail or not,
the dataset stays consistent (`Dataset.consistent_afterPlans`): its base is the one it started with,
and each derived column holds the buckets of one column of the base and one grain, which its name
tells.

* What one plan keeps is `Dataset.Grown.plan`: the table shows the base and, of other columns,
  buckets over it.
* Of a column that it shows a derived one is known by its name, and names of buckets tell column and
  grain apart (`Dimension.bucketName_inj`).
* Derived columns are never taken away (`Spec.derived_prefix_plan`), so the columns that a plan
  groups by stay.
-/

namespace Crosstab

/-! ## What planning adds -/

namespace Dataset

variable {ds ds' : Dataset} {c : Column} {attached : Bool}

theorem derived_prefix_attach (h : ds.attach c = .ok (attached, ds')) :
    ds.derived <+: ds'.derived := by
  unfold attach at h
  split at h
  · cases h
    exact List.prefix_rfl
  · split at h
    · cases h
    · cases h
      exact List.prefix_append _ _

/-- What is attached is there afterwards, if it was not before. -/
theorem hasColumn_of_attach (h : ds.attach c = .ok (attached, ds')) :
    ds'.hasColumn c.name = true := by
  unfold attach at h
  split at h
  · next hold =>
    cases h
    exact hold
  · split at h
    · cases h
    · cases h
      simp [hasColumn]

theorem hasColumn_of_prefix (hbase : ds'.base = ds.base) (hderived : ds.derived <+: ds'.derived)
    {name : String} (h : ds.hasColumn name = true) : ds'.hasColumn name = true := by
  rw [hasColumn_iff, mem_names_table] at h ⊢
  rw [hbase]
  exact h.imp_right fun hname => (hderived.map _).subset hname

end Dataset

namespace Plan

variable {site : Site} {ds ds' : Dataset}

/-- Planning a dimension takes nothing away and, over the dataset, leaves the column to group
by. -/
theorem resolve_keeps {d : Dimension} {key : String} (h : resolve site ds d = .ok (key, ds')) :
    ds'.base = ds.base ∧ ds.derived <+: ds'.derived ∧
      (site.usesDataset = true → ds'.hasColumn key = true) := by
  unfold resolve at h
  split at h
  · obtain ⟨⟨key', buckets⟩, hresolve, h⟩ := bind_eq_ok_iff.mp h
    obtain ⟨source, hsource, hresolve⟩ := bind_eq_ok_iff.mp hresolve
    obtain ⟨grain, -, hresolve⟩ := bind_eq_ok_iff.mp hresolve
    cases grain with
    | none =>
      cases pure_eq_ok_iff.mp hresolve
      cases pure_eq_ok_iff.mp h
      refine ⟨rfl, List.prefix_rfl, fun _ => ?_⟩
      rw [Dataset.hasColumn, Frame.hasColumn_iff.mpr (Frame.mem_names_of_require hsource)]
      rfl
    | some g =>
      cases pure_eq_ok_iff.mp hresolve
      obtain ⟨⟨attached, ds₁⟩, hattach, h⟩ := bind_eq_ok_iff.mp h
      cases pure_eq_ok_iff.mp h
      exact ⟨Dataset.base_of_attach hattach, Dataset.derived_prefix_attach hattach,
        fun _ => Dataset.hasColumn_of_attach hattach⟩
  · next hsite =>
    obtain ⟨key', -, h⟩ := bind_eq_ok_iff.mp h
    cases pure_eq_ok_iff.mp h
    exact ⟨rfl, List.prefix_rfl, fun h => absurd h hsite⟩

/-- So does planning some dimensions, also if one of them fails. -/
theorem resolveAll_keeps (site : Site) (ds : Dataset) (dims : List Dimension) :
    (resolveAll site ds dims).1.base = ds.base ∧
      ds.derived <+: (resolveAll site ds dims).1.derived ∧
      ∀ keys, (resolveAll site ds dims).2 = .ok keys → site.usesDataset = true →
        ∀ key ∈ keys, (resolveAll site ds dims).1.hasColumn key = true := by
  induction dims generalizing ds with
  | nil =>
    refine ⟨rfl, List.prefix_rfl, ?_⟩
    rintro keys ⟨⟩ _ key hkey
    exact absurd hkey List.not_mem_nil
  | cons d rest ih =>
    cases hresolve : resolve site ds d with
    | error e =>
      rw [resolveAll, hresolve]
      refine ⟨rfl, List.prefix_rfl, ?_⟩
      intro keys hok
      cases hok
    | ok answer =>
      obtain ⟨key, ds₁⟩ := answer
      obtain ⟨hbase, hderived, hkey⟩ := resolve_keeps hresolve
      obtain ⟨hbase', hderived', hkeys⟩ := ih ds₁
      rw [resolveAll, hresolve]
      dsimp only
      refine ⟨hbase'.trans hbase, hderived.trans hderived', ?_⟩
      intro keys hok hsite name hname
      cases hrest : (resolveAll site ds₁ rest).2 with
      | error e =>
        rw [hrest] at hok
        cases hok
      | ok more =>
        rw [hrest] at hok
        cases hok
        rcases List.mem_cons.mp hname with rfl | hname
        · exact Dataset.hasColumn_of_prefix hbase' hderived' (hkey hsite)
        · exact hkeys more hrest hsite name hname

end Plan

namespace Spec

variable {site : Site} {ds : Dataset} {p : Plan}

/-- Planning takes no derived column away. -/
theorem derived_prefix_plan (s : Spec) (site : Site) (ds : Dataset) :
    ds.derived <+: (s.plan site ds).1.derived := by
  unfold plan
  cases s.validate with
  | error e => exact List.prefix_rfl
  | ok _ => exact (Plan.resolveAll_keeps site ds s.dimensions).2.1

/-- A plan over the dataset groups by columns of the dataset. -/
theorem hasColumn_of_plan {s : Spec} (h : (s.plan site ds).2 = .ok p)
    (hsite : site.usesDataset = true) {key : String} (hkey : key ∈ p.groupKeys) :
    (s.plan site ds).1.hasColumn key = true := by
  obtain ⟨-, keys, hall, -, rfl⟩ := plan_eq_ok (Prod.ext rfl h)
  rw [groupKeys_planOf] at hkey
  have hkeeps := (Plan.resolveAll_keeps site ds s.dimensions).2.2 keys
  rw [hall] at hkeeps
  exact hkeeps rfl hsite key hkey

end Spec

/-! ## Consistent datasets -/

namespace Dataset

/-- The base is as it was, each derived column holds row by row the buckets that its name tells,
which is the name of no other buckets, names differ, and the table is the base with the derived
columns behind it. -/
structure Consistent (base : Frame) (ds : Dataset) : Prop where
  base_eq : ds.base = base
  exists_buckets : ∀ c ∈ ds.derived, ∃ source ∈ base.columns, ∃ g : TimeGrain,
    c.name = Dimension.bucketName source.name g ∧ c.values = source.values.map g.bucket ∧
      ∀ other ∈ base.columns, ∀ g' : TimeGrain,
        c.name = Dimension.bucketName other.name g' → other = source ∧ g' = g
  nodup_names : (base.names ++ ds.derived.map (·.name)).Nodup
  frame_eq : ds.frame = .ok ⟨base.columns ++ ds.derived, base.len⟩

/-- A derived column is the one of its name. -/
theorem WellFormed.column?_of_mem_derived {ds : Dataset} (h : ds.WellFormed) {c : Column}
    (hc : c ∈ ds.derived) : ds.table.column? c.name = some c :=
  (Frame.column?_eq_some_iff (wellFormed_frame h.base h.frame_eq)).mpr
    ⟨List.mem_append_right _ hc, rfl⟩

theorem Grown.consistent {base : Frame} {ds : Dataset} (h : ds.Grown base) :
    ds.Consistent base := by
  have hwf := h.wellFormed
  obtain ⟨dims, hdims⟩ := h.exists_buckets
  obtain rfl := h.base_eq
  refine ⟨rfl, ?_, hwf.nodup_names, hwf.frame_eq⟩
  intro c hc
  -- the column is not one of the base, so it is shown as the buckets of a dimension
  have hshown := hdims c.name
  have hnew : ds.base.column? c.name = none := by
    rw [← Option.not_isSome_iff_eq_none]
    intro hsome
    have hmem : c.name ∈ ds.base.names := Frame.hasColumn_iff.mp hsome
    exact (List.nodup_append.mp hwf.nodup_names).2.2 _ hmem _ (List.mem_map_of_mem hc) rfl
  rw [hwf.column?_of_mem_derived hc, hnew, Option.none_or] at hshown
  obtain ⟨d, -, hd⟩ := List.exists_of_findSome?_eq_some hshown.symm
  obtain ⟨g, source, -, hname, hsource, hvalues⟩ := Dimension.bucket?_eq_some_iff.mp hd
  obtain ⟨hmem, hsourceName⟩ := Frame.require_eq_ok (Frame.require_eq_ok_iff.mpr hsource)
  refine ⟨source, hmem, g, by rw [hsourceName, hname], congrArg Column.values hvalues, ?_⟩
  intro other hother g' hother'
  rw [← hname, ← hsourceName] at hother'
  obtain ⟨heq, rfl⟩ := Dimension.bucketName_inj hother'
  exact ⟨Frame.eq_of_name_eq hwf.base hother hmem heq.symm, rfl⟩

/-! ## Runs -/

/-- The dataset after some reports were planned over it in turn, whatever came of them. -/
def afterPlans (ds : Dataset) (plans : List (Site × Spec)) : Dataset :=
  plans.foldl (fun ds (site, s) => (s.plan site ds).1) ds

theorem grown_afterPlans {base : Frame} {ds : Dataset} (h : ds.Grown base)
    (plans : List (Site × Spec)) : (ds.afterPlans plans).Grown base := by
  induction plans generalizing ds with
  | nil => exact h
  | cons plan rest ih => exact ih (h.plan plan.1 plan.2)

theorem derived_prefix_afterPlans (ds : Dataset) (plans : List (Site × Spec)) :
    ds.derived <+: (ds.afterPlans plans).derived := by
  induction plans generalizing ds with
  | nil => exact List.prefix_rfl
  | cons plan rest ih => exact (plan.2.derived_prefix_plan plan.1 ds).trans (ih _)

/-- **Planning keeps a dataset consistent.**  After any sequence of plans over a fresh dataset, for
any sites and whether they fail or not, the dataset is consistent with its base.  The columns by
which one of the plans groups over the dataset are there. -/
theorem consistent_afterPlans {base : Frame} (hbase : base.WellFormed)
    (plans : List (Site × Spec)) :
    ((ofFrame base).afterPlans plans).Consistent base ∧
    ∀ before site s after p, plans = before ++ (site, s) :: after → site.usesDataset = true →
      (s.plan site ((ofFrame base).afterPlans before)).2 = .ok p →
      ∀ key ∈ p.groupKeys, ((ofFrame base).afterPlans plans).hasColumn key = true := by
  have hgrown : ∀ plans, ((ofFrame base).afterPlans plans).Grown base :=
    grown_afterPlans (grown_ofFrame hbase)
  refine ⟨(hgrown plans).consistent, ?_⟩
  rintro before site s after p rfl hsite hplan key hkey
  have hthere := Spec.hasColumn_of_plan hplan hsite hkey
  have hrun : (ofFrame base).afterPlans (before ++ (site, s) :: after) =
      (s.plan site ((ofFrame base).afterPlans before)).1.afterPlans after := by
    rw [afterPlans, List.foldl_append, List.foldl_cons]
    rfl
  rw [hrun]
  refine hasColumn_of_prefix ?_ (derived_prefix_afterPlans _ after) hthere
  rw [(((hgrown before).plan site s)).base_eq, ← hrun, (hgrown _).base_eq]

/-- Days, of which one is none, and numbers under the name of the months of the days. -/
def dayAndLookalike : Frame :=
  ⟨[⟨"day", [.text "2024-02-29", .text "soon"]⟩, ⟨"__day@month__", [.int 1, .int 2]⟩], 2⟩

/-- Plans of which the first fails half-way, the second is made for a warehouse, and the last finds
the name of its months taken. -/
def mixedPlans : List (Site × Spec) :=
  [(.embedded, { rows := [{ name := "day", timeGrain := some "quarter" }, { name := "shop" }] }),
    (.warehouse, { rows := [{ name := "day", timeGrain := some "year" }] }),
    (.here, { rows := [{ name := "day", timeGrain := some "M" },
      { name := "__day@month__", timeGrain := some "day" }] })]

/-- The quarters of the plan that failed stay, the months are not derived, and the column that looks
like them has buckets of its own. -/
theorem consistent_afterPlans_mixed : dayAndLookalike.WellFormed ∧
    ((ofFrame dayAndLookalike).afterPlans mixedPlans).derived =
      [⟨"__day@quarter__", [.date ⟨2024, 1, 1, rfl⟩, .null]⟩,
        ⟨"____day@month__@day__", [.null, .null]⟩] ∧
    ((ofFrame dayAndLookalike).afterPlans mixedPlans).Consistent dayAndLookalike ∧
    ∀ key ∈ ["__day@month__", "____day@month__@day__"],
      ((ofFrame dayAndLookalike).afterPlans mixedPlans).hasColumn key = true := by
  have hbase : dayAndLookalike.WellFormed := by decide
  obtain ⟨hconsistent, hkeys⟩ := consistent_afterPlans hbase mixedPlans
  refine ⟨hbase, by decide +kernel, hconsistent, ?_⟩
  exact hkeys (mixedPlans.take 2) .here _ [] _ rfl rfl rfl

end Dataset

end Crosstab
