import Crosstab.Proofs.Report.Attached
import Crosstab.Proofs.Report.Engine
import Crosstab.Proofs.Report.Sliced

/-!
# Reports do not depend on earlier ones

A dataset changes while reports are planned over it: columns of buckets are attached and stay, also
if planning fails half-way.  Still a report that is made here is the same after any calls as over
the fresh dataset (`report_after_calls`).

* A backend has no part in it: what a call leaves of a dataset is what its plan leaves
  (`Call.after`).
* Whatever was called, the dataset shows its base with buckets of some dimensions
  (`Call.grown_after`), and buckets of one name are the same column (`Dimension.bucket?_unique`).
* So a table over which a report was planned is the same as over the fresh dataset, but for buckets
  that are none of its own (`Spec.OwnBucketsOnly`), and a report that reads none of these is made
  of the same rows, groups and measures (`Spec.computed_congr`).
-/

namespace Crosstab

/-! ## Calls -/

/-- A call that plans a report over a dataset, or makes one. -/
inductive Call (m : Type → Type) where
  /-- A report is planned for a site. -/
  | plan (site : Site) (s : Spec)
  /-- A report is made by an engine. -/
  | report (e : Engine m) (s : Spec)

namespace Call

variable {m : Type → Type}

/-- The dataset that a call leaves. -/
def after (ds : Dataset) : Call m → Dataset
  | plan site s => (s.plan site ds).1
  | report e s => (s.plan e.site ds).1

variable [Monad m]

/-- Makes a call; the answer is the dataset that it leaves. -/
def run (ds : Dataset) : Call m → m Dataset
  | plan site s => pure (s.plan site ds).1
  | report e s => Prod.fst <$> e.run ds s

/-- What follows a call sees the dataset that the plan of the call leaves. -/
theorem run_bind [LawfulMonad m] {α : Type} (c : Call m) (ds : Dataset) (next : Dataset → m α) :
    c.run ds >>= next = c.run ds >>= fun _ => next (c.after ds) := by
  cases c with
  | plan site s => rw [run, pure_bind, pure_bind, after]
  | report e s =>
    rw [run, after, bind_map_left, bind_map_left]
    rcases hplan : s.plan e.site ds with ⟨ds', p | p⟩
    · rw [Engine.run_of_plan_error hplan, pure_bind, pure_bind]
    · rw [Engine.run_of_plan hplan, bind_map_left, bind_map_left]

/-- What follows some calls sees the dataset that their plans leave. -/
theorem foldlM_run_bind [LawfulMonad m] {α : Type} (calls : List (Call m)) (ds : Dataset)
    (next : Dataset → m α) :
    calls.foldlM run ds >>= next =
      calls.foldlM run ds >>= fun _ => next (calls.foldl after ds) := by
  induction calls generalizing ds with
  | nil => rw [List.foldlM_nil, pure_bind, pure_bind, List.foldl_nil]
  | cons c rest ih =>
    have hlast : ∀ ds₀, (c.run ds >>= fun ds₁ => rest.foldlM run ds₁ >>= fun _ => next ds₀) =
        c.run ds >>= fun _ => rest.foldlM run (c.after ds) >>= fun _ => next ds₀ := fun ds₀ =>
      run_bind c ds fun ds₁ => rest.foldlM run ds₁ >>= fun _ => next ds₀
    rw [List.foldlM_cons, bind_assoc, bind_assoc, run_bind, ih, hlast, List.foldl_cons]

omit [Monad m] in
/-- A call leaves a dataset that shows nothing but its base and buckets over it. -/
theorem grown_after {base : Frame} {ds : Dataset} (h : ds.Grown base) (c : Call m) :
    (c.after ds).Grown base := by
  cases c with
  | plan site s => exact h.plan site s
  | report e s => exact h.plan e.site s

omit [Monad m] in
/-- So do any calls. -/
theorem grown_foldl_after {base : Frame} {ds : Dataset} (h : ds.Grown base)
    (calls : List (Call m)) : (calls.foldl after ds).Grown base := by
  induction calls generalizing ds with
  | nil => exact h
  | cons c rest ih => exact ih (grown_after h c)

end Call

/-! ## Buckets of one name -/

namespace Dimension

theorem bucket?_eq_some_iff {d : Dimension} {base : Frame} {name : String} {c : Column} :
    d.bucket? base name = some c ↔ ∃ g source, d.grain = .ok (some g) ∧
      bucketName d.name g = name ∧ base.column? d.name = some source ∧
      c = ⟨name, source.values.map g.bucket⟩ := by
  unfold bucket?
  split
  · next g hg =>
    by_cases hname : bucketName d.name g = name
    · rw [if_pos hname, Option.map_eq_some_iff]
      constructor
      · rintro ⟨source, hsource, rfl⟩
        exact ⟨g, source, hg, hname, hsource, rfl⟩
      · rintro ⟨g', source, hg', -, hsource, rfl⟩
        obtain rfl : g = g' := Option.some.inj (Except.ok.inj (hg.symm.trans hg'))
        exact ⟨source, hsource, rfl⟩
    · rw [if_neg hname]
      refine iff_of_false nofun ?_
      rintro ⟨g', -, hg', hname', -, -⟩
      obtain rfl : g = g' := Option.some.inj (Except.ok.inj (hg.symm.trans hg'))
      exact hname hname'
  · next hnone =>
    refine iff_of_false nofun ?_
    rintro ⟨g, -, hg, -⟩
    exact hnone g hg

/-- Buckets of one name are the same, whosever they are. -/
theorem bucket?_unique {d d' : Dimension} {base : Frame} {name : String} {c c' : Column}
    (h : d.bucket? base name = some c) (h' : d'.bucket? base name = some c') : c = c' := by
  obtain ⟨g, source, -, rfl, hsource, rfl⟩ := bucket?_eq_some_iff.mp h
  obtain ⟨g', source', -, hname, hsource', rfl⟩ := bucket?_eq_some_iff.mp h'
  obtain ⟨hcolumn, rfl⟩ := bucketName_inj hname
  rw [hcolumn] at hsource'
  obtain rfl := Option.some.inj (hsource.symm.trans hsource')
  rfl

end Dimension

/-! ## What a report reads -/

namespace Spec

/-- A column of the base, or no buckets over the base but those of a dimension of the report. -/
def Own (s : Spec) (base : Frame) (name : String) : Prop :=
  name ∈ base.names ∨ ∀ source ∈ base.names, ∀ g, Dimension.bucketName source g = name →
    ∃ d ∈ s.dimensions, d.name = source ∧ d.grain = .ok (some g)

/-- The filter and the measures read no buckets but those of the dimensions.  The filter of groups
reads the grouped table, in which there are no others. -/
structure OwnBucketsOnly (s : Spec) (base : Frame) : Prop where
  filter : ∀ p ∈ s.filter, ∀ name ∈ p.dependencies, s.Own base name
  metrics : ∀ m ∈ s.metrics, ∀ name ∈ m.dependencies, s.Own base name

variable {s : Spec} {p : Plan} {base f g : Frame} {ds ds' : Dataset} {N : String → Prop}

/-- A column of the base, or of buckets that the report attaches itself, is the same whatever was
attached before. -/
theorem Own.column?_eq {name : String} (h : s.Own base name) (dims : List Dimension) :
    ((base.column? name).or (dims.findSome? fun d => d.bucket? base name)).or
        (s.dimensions.findSome? fun d => d.bucket? base name) =
      (base.column? name).or (s.dimensions.findSome? fun d => d.bucket? base name) := by
  cases hbase : base.column? name with
  | some c => rfl
  | none =>
    cases hdims : dims.findSome? fun d => d.bucket? base name with
    | none => rfl
    | some c =>
      -- the column was attached before: then the report has a dimension with these buckets
      obtain ⟨d, -, hd⟩ := List.exists_of_findSome?_eq_some hdims
      obtain ⟨g, source, hg, rfl, hsource, rfl⟩ := Dimension.bucket?_eq_some_iff.mp hd
      have hnot : Dimension.bucketName d.name g ∉ base.names := by
        rw [← Frame.hasColumn_iff, Frame.hasColumn, hbase]
        exact Bool.false_ne_true
      have hmem : d.name ∈ base.names := by
        rw [← Frame.hasColumn_iff, Frame.hasColumn, hsource]
        rfl
      obtain ⟨e, he, hname, hgrain⟩ := h.resolve_left hnot d.name hmem g rfl
      have hbucket : e.bucket? base (Dimension.bucketName d.name g) =
          some ⟨Dimension.bucketName d.name g, source.values.map g.bucket⟩ :=
        Dimension.bucket?_eq_some_iff.mpr
          ⟨g, source, hgrain, by rw [hname], by rw [hname, hsource], rfl⟩
      have hown : (s.dimensions.findSome? fun d' =>
          d'.bucket? base (Dimension.bucketName d.name g)).isSome := by
        rw [List.findSome?_isSome_iff]
        exact ⟨e, he, by rw [hbucket]; rfl⟩
      obtain ⟨c, hc⟩ := Option.isSome_iff_exists.mp hown
      obtain ⟨e', -, he'⟩ := List.exists_of_findSome?_eq_some hc
      rw [Option.none_or, Option.some_or, Option.none_or, hc, Dimension.bucket?_unique hd he']

/-- A report groups by columns of the base and by its own buckets. -/
theorem own_of_mem_keys {keys : List String}
    (h : (s.dimensions.mapM fun d => do let _ ← base.require d.name; d.keyName) = .ok keys)
    {name : String} (hname : name ∈ keys) : s.Own base name := by
  obtain ⟨i, hi⟩ := List.mem_iff_getElem?.mp hname
  obtain ⟨d, hd, hkey⟩ := getElem?_of_mapM_eq_ok h hi
  obtain ⟨source, hsource, hkey⟩ := bind_eq_ok_iff.mp hkey
  rcases Dimension.keyName_eq_ok_iff.mp hkey with ⟨-, rfl⟩ | ⟨g, hg, rfl⟩
  · exact .inl (Frame.mem_names_of_require hsource)
  · refine .inr ?_
    intro other _ g' heq
    obtain ⟨rfl, rfl⟩ := Dimension.bucketName_inj heq
    exact ⟨d, List.mem_of_getElem? hd, rfl, hg⟩

/-! ## Reports over tables that agree -/

theorem measureColumns_congr (hfg : f.AgreeOn N g)
    (hN : ∀ m ∈ s.plannedMeasures, ∀ name ∈ m.dependencies, N name) (groups : List Frame.Group) :
    s.measureColumns g groups = s.measureColumns f groups := by
  rw [measureColumns_eq, measureColumns_eq]
  refine mapM_congr ?_
  intro m hm
  rw [Measure.column, Measure.column, Aggregate.eval_congr (hN m hm) hfg]

/-- A report over tables that agree on the names that it groups by and reads is the same, be it a
result or an error. -/
theorem computed_congr (hf : ds.frame = .ok f) (hg : ds'.frame = .ok g) (hfg : f.AgreeOn N g)
    (hkeys : ∀ name ∈ p.groupKeys, N name)
    (hfilter : ∀ c ∈ s.filter, ∀ name ∈ c.dependencies, N name)
    (hmetrics : ∀ m ∈ s.metrics, ∀ name ∈ m.dependencies, N name) :
    s.computed ds' p = s.computed ds p := by
  rw [computed, computed, grouped, grouped, hf, hg, ok_bind, ok_bind]
  rcases hfg.restrict hfilter with ⟨e, he, he'⟩ | ⟨f', g', hf', hg', hagree⟩
  · rw [he, he']
  · simp only [hf', hg', ok_bind, hagree.groups_eq hkeys,
      measureColumns_congr hagree (dependencies_of_plannedMeasures hmetrics)]

end Spec

namespace Dataset

variable {s : Spec} {base : Frame} {ds : Dataset}

/-- **A report over a dataset with buckets.**  Whatever buckets a dataset shows besides its base, a
report that reads none but its own is that over the base. -/
theorem report_of_grown (hs : s.OwnBucketsOnly base) (hds : ds.Grown base) :
    (ds.report s).2 = ((ofFrame base).report s).2 := by
  have hbase : base.WellFormed := hds.base_eq ▸ hds.wellFormed.base
  rw [report, report, Spec.plan, Spec.plan]
  cases s.validate with
  | error e => rfl
  | ok _ =>
    obtain ⟨ds₁, -, hall, -, hbase₁, -, -⟩ := hds.wellFormed.resolveAll_here s.dimensions
    obtain ⟨ds₂, -, hall₂, -, hbase₂, -, -⟩ :=
      (wellFormed_ofFrame hbase).resolveAll_here s.dimensions
    rw [hds.base_eq] at hall
    dsimp only
    rw [hall, hall₂]
    cases hkeys : s.dimensions.mapM fun d => (do let _ ← base.require d.name; d.keyName) with
    | error e =>
      rw [show (ofFrame base).base = base from rfl, hkeys]
      rfl
    | ok keys =>
      rw [hkeys] at hall
      rw [show (ofFrame base).base = base from rfl, hkeys] at hall₂ ⊢
      obtain ⟨hwf₁, hcolumn₁⟩ := hds.wellFormed.column?_of_resolveAll hall
      obtain ⟨hwf₂, hcolumn₂⟩ := (wellFormed_ofFrame hbase).column?_of_resolveAll hall₂
      obtain ⟨dims, hdims⟩ := hds.exists_buckets
      have hagree : ds₂.table.AgreeOn (s.Own base) ds₁.table := by
        refine ⟨?_, ?_⟩
        · rw [table, table, hbase₁, hbase₂, hds.base_eq]
          rfl
        · intro name hname
          rw [hcolumn₁, hcolumn₂, hdims, hds.base_eq, table_ofFrame]
          exact hname.column?_eq dims
      refine Spec.computed_congr hwf₂.frame_eq hwf₁.frame_eq hagree ?_ hs.filter hs.metrics
      intro name hname
      rw [Spec.groupKeys_planOf] at hname
      exact Spec.own_of_mem_keys hkeys hname

end Dataset

namespace Engine

variable {m : Type → Type} [Monad m]

theorem run_here [LawfulMonad m] (ds : Dataset) (s : Spec) :
    (here : Engine m).run ds s = pure (ds.report s) := by
  rcases hplan : s.plan .here ds with ⟨ds', e | p⟩
  · have hreport : ds.report s = (ds', .error e) := by
      rw [Dataset.report, hplan]
      rfl
    rw [run_of_plan_error hplan, hreport]
  · have hreport : ds.report s = (ds', s.computed ds' p) := by
      rw [Dataset.report, hplan]
      rfl
    rw [run_of_plan hplan, execute, map_pure, hreport]

end Engine

/-- **Reports do not depend on earlier ones.**  A report that reads no buckets but its own is the
same, be it a result or an error, after any calls over a fresh dataset, whoever is called and
however the calls end, as without them. -/
theorem report_after_calls {m : Type → Type} [Monad m] [LawfulMonad m] {base : Frame}
    (hbase : base.WellFormed) {s : Spec} (hs : s.OwnBucketsOnly base) (calls : List (Call m)) :
    (do
      let ds ← calls.foldlM Call.run (.ofFrame base)
      let answer ← Engine.here.run ds s
      return answer.2) =
    (do
      let _ ← calls.foldlM Call.run (.ofFrame base)
      let answer ← Engine.here.run (.ofFrame base) s
      return answer.2) := by
  have hgrown := Call.grown_foldl_after (Dataset.grown_ofFrame hbase) calls
  rw [Call.foldlM_run_bind]
  simp only [Engine.run_here, pure_bind, Dataset.report_of_grown hs hgrown]

/-- The sum of each month, where the month is known. -/
def sumsByKnownMonth : Spec where
  rows := [{ name := "day", timeGrain := some "month" }]
  metrics := [.row "sum" .sum (.column "sold")]
  filter := some (.not (.isNull (.column "__day@month__")))

/-- Calls that attach the years and the quarters, of which the last one fails for a column that is
not there. -/
def earlierCalls : List (Call Id) :=
  [.plan .here { rows := [{ name := "day", timeGrain := some "year" }] },
    .report .here { rows := [{ name := "day", timeGrain := some "quarter" }, { name := "shop" }] }]

/-- The report does not tell that years and quarters were attached before its months. -/
theorem report_after_earlierCalls :
    ((earlierCalls.foldl Call.after (.ofFrame Dataset.soldByDay)).derived.map (·.name) =
      ["__day@year__", "__day@quarter__"]) ∧
    (do
      let ds ← earlierCalls.foldlM Call.run (.ofFrame Dataset.soldByDay)
      let answer ← Engine.here.run ds sumsByKnownMonth
      return answer.2 : Id (Outcome Report)) =
    (do
      let _ ← earlierCalls.foldlM Call.run (.ofFrame Dataset.soldByDay)
      let answer ← Engine.here.run (.ofFrame Dataset.soldByDay) sumsByKnownMonth
      return answer.2) := by
  refine ⟨by decide, report_after_calls (by decide) ⟨?_, ?_⟩ earlierCalls⟩
  · rintro _ ⟨⟩ name hname
    obtain rfl : name = Dimension.bucketName "day" .month := List.mem_singleton.mp hname
    -- the months are those of the only dimension
    refine .inr ?_
    intro source _ g hname
    obtain ⟨rfl, rfl⟩ := Dimension.bucketName_inj hname
    exact ⟨_, List.mem_cons_self, rfl, rfl⟩
  · intro m hm name hname
    rw [List.mem_singleton.mp hm] at hname
    obtain rfl : name = "sold" := List.mem_singleton.mp hname
    exact .inl (by decide)

end Crosstab
