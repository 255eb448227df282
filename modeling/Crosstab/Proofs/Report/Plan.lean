import Crosstab.Report.Statement
import Crosstab.Proofs.Report.Grouped

/-!
# Names of a plan

A plan groups by columns whose names are made of the names of dimensions, and it may add a measure
of its own.  The specification is checked before either happens, so the check is about other names
than those of the plan.

* What a plan holds does not depend on the dataset: `plan_eq_ok` tells it from the specification,
  and `plan_embedded`, `plan_warehouse` carry a plan that was made here over to the other sites.
* The names that a specification gives to a plan differ if and only if no bucket has the name of a
  dimension or a measure, and no dimension that of the measure that is added (`Spec.NamesApart`).
* Exactly then no column of the grouped table hides another one, and no two items of the statement
  have one alias (`nodup_names_iff`).
-/

namespace Crosstab

/-! ## Repeated names -/

theorem firstRepeated?_eq_none_iff {seen names : List String} :
    firstRepeated? seen names = none ↔ names.Nodup ∧ ∀ name ∈ names, name ∉ seen := by
  induction names generalizing seen with
  | nil => simp [firstRepeated?]
  | cons name rest ih =>
    rw [firstRepeated?]
    split
    · next hseen => simp [hseen]
    · next hseen =>
      rw [ih, List.nodup_cons]
      constructor
      · rintro ⟨hrest, hnew⟩
        have hname : name ∉ rest := fun h => hnew name h List.mem_cons_self
        refine ⟨⟨hname, hrest⟩, ?_⟩
        intro other hother
        rcases List.mem_cons.mp hother with rfl | hother
        · exact hseen
        · exact fun h => hnew other hother (List.mem_cons_of_mem _ h)
      · rintro ⟨⟨hname, hrest⟩, hnew⟩
        refine ⟨hrest, ?_⟩
        intro other hother h
        rcases List.mem_cons.mp h with rfl | h
        · exact hname hother
        · exact hnew other (List.mem_cons_of_mem _ hother) h

/-- A specification passes the check if names differ, grains are known and conditions pass. -/
theorem Spec.validate_eq_ok_iff {s : Spec} : s.validate = .ok () ↔
    (s.dimensions.map (·.name) ++ s.metricNames).Nodup ∧
    (∀ d ∈ s.dimensions, ∃ g, d.grain = .ok g) ∧
    ∀ p ∈ s.filter.toList ++ s.having.toList, p.check = .ok () := by
  have hgrains : (s.dimensions.forM fun d => do let _ ← d.grain) = .ok () ↔
      ∀ d ∈ s.dimensions, ∃ g, d.grain = .ok g := by
    rw [forM_eq_ok_iff]
    refine forall₂_congr fun d _ => bind_eq_ok_iff.trans ?_
    exact exists_congr fun g => and_iff_left rfl
  unfold validate
  split
  · next hsome =>
    constructor
    · intro h
      cases h
    · rintro ⟨hnodup, -⟩
      have hnone : firstRepeated? [] (s.dimensions.map (·.name) ++ s.metricNames) = none :=
        firstRepeated?_eq_none_iff.mpr ⟨hnodup, fun _ _ => List.not_mem_nil⟩
      rw [hnone] at hsome
      cases hsome
  · next hnone =>
    rw [and_iff_right (firstRepeated?_eq_none_iff.mp hnone).1, ← hgrains, ← forM_eq_ok_iff,
      bind_eq_ok_iff]
    constructor
    · rintro ⟨_, h⟩
      exact h
    · intro h
      exact ⟨(), h⟩

/-- The names of a specification that is checked differ. -/
theorem Spec.nodup_names_of_validate {s : Spec} (h : s.validate = .ok ()) :
    (s.dimensions.map (·.name) ++ s.metricNames).Nodup := (validate_eq_ok_iff.mp h).1

/-! ## Keys of dimensions -/

namespace Dimension

/-- A list is cut at its last `@` in one way. -/
theorem eq_of_append_at {a b c d : List Char} (hb : '@' ∉ b) (hd : '@' ∉ d)
    (h : a ++ '@' :: b = c ++ '@' :: d) : a = c ∧ b = d := by
  rcases List.append_eq_append_iff.mp h with ⟨x, hx, heq⟩ | ⟨x, hx, heq⟩
  · cases x with
    | nil => exact ⟨by simpa using hx.symm, by simpa using heq⟩
    | cons y x =>
      obtain ⟨_, rfl⟩ := List.cons.inj heq
      simp at hb
  · cases x with
    | nil => exact ⟨by simpa using hx, by simpa using heq.symm⟩
    | cons y x =>
      obtain ⟨_, rfl⟩ := List.cons.inj heq
      simp at hd

/-- Buckets of different columns or grains have different names. -/
theorem bucketName_inj {name other : String} {g g' : TimeGrain}
    (h : bucketName name g = bucketName other g') : name = other ∧ g = g' := by
  have hat : ∀ g : TimeGrain, '@' ∉ g.name.toList := by
    intro g
    cases g <;> decide
  have hlist := congrArg String.toList h
  simp only [bucketName, String.toList_append] at hlist
  have hmiddle : name.toList ++ '@' :: g.name.toList = other.toList ++ '@' :: g'.name.toList := by
    simpa using List.append_cancel_right hlist
  obtain ⟨hname, hgrain⟩ := eq_of_append_at (hat g) (hat g') hmiddle
  refine ⟨String.toList_inj.mp hname, ?_⟩
  have hfound := TimeGrain.ofName?_name g
  rw [String.toList_inj.mp hgrain, TimeGrain.ofName?_name] at hfound
  exact (Option.some.inj hfound).symm

theorem bucketName_ne_countName (name : String) (g : TimeGrain) :
    bucketName name g ≠ Plan.countName := by
  intro h
  have hlist := congrArg String.toList h
  simp [bucketName, Plan.countName] at hlist

theorem keyName_of_plain {d : Dimension} (h : d.grain = .ok none) : d.keyName = .ok d.name := by
  rw [keyName, h]
  rfl

theorem keyName_of_bucket {d : Dimension} {g : TimeGrain} (h : d.grain = .ok (some g)) :
    d.keyName = .ok (bucketName d.name g) := by
  rw [keyName, h]
  rfl

theorem exists_keyName {d : Dimension} {grain : Option TimeGrain} (h : d.grain = .ok grain) :
    ∃ key, d.keyName = .ok key := by
  cases grain with
  | none => exact ⟨d.name, keyName_of_plain h⟩
  | some g => exact ⟨bucketName d.name g, keyName_of_bucket h⟩

theorem keyName_eq_ok_iff {d : Dimension} {key : String} :
    d.keyName = .ok key ↔ d.grain = .ok none ∧ key = d.name ∨
      ∃ g, d.grain = .ok (some g) ∧ key = bucketName d.name g := by
  constructor
  · intro h
    obtain ⟨grain, hgrain, hkey⟩ := bind_eq_ok_iff.mp h
    cases grain with
    | none => exact .inl ⟨hgrain, (pure_eq_ok_iff.mp hkey).symm⟩
    | some g => exact .inr ⟨g, hgrain, (pure_eq_ok_iff.mp hkey).symm⟩
  · rintro (⟨h, rfl⟩ | ⟨g, h, rfl⟩)
    · exact keyName_of_plain h
    · exact keyName_of_bucket h

/-- The key of a dimension whose grain is known. -/
def key (d : Dimension) : String :=
  match d.grain with
  | .ok (some g) => bucketName d.name g
  | _ => d.name

theorem key_of_plain {d : Dimension} (h : d.grain = .ok none) : d.key = d.name := by
  rw [key, h]

theorem key_of_bucket {d : Dimension} {g : TimeGrain} (h : d.grain = .ok (some g)) :
    d.key = bucketName d.name g := by
  rw [key, h]

theorem eq_key_of_keyName {d : Dimension} {k : String} (h : d.keyName = .ok k) : k = d.key := by
  rcases keyName_eq_ok_iff.mp h with ⟨hgrain, rfl⟩ | ⟨g, hgrain, rfl⟩
  · exact (key_of_plain hgrain).symm
  · exact (key_of_bucket hgrain).symm

/-- Where the data is there, the key is the same as without it. -/
theorem keyName_of_resolve {d : Dimension} {f : Frame} {key : String} {c : Option Column}
    (h : d.resolve f = .ok (key, c)) : d.keyName = .ok key := by
  obtain ⟨_, _, h⟩ := bind_eq_ok_iff.mp h
  obtain ⟨grain, hgrain, h⟩ := bind_eq_ok_iff.mp h
  cases grain with
  | none =>
    obtain ⟨rfl, _⟩ := Prod.mk.inj (pure_eq_ok_iff.mp h)
    exact keyName_of_plain hgrain
  | some g =>
    obtain ⟨rfl, _⟩ := Prod.mk.inj (pure_eq_ok_iff.mp h)
    exact keyName_of_bucket hgrain

end Dimension

/-! ## What a plan holds -/

namespace Plan

theorem keyName_of_resolve {site : Site} {ds ds' : Dataset} {d : Dimension} {key : String}
    (h : resolve site ds d = .ok (key, ds')) : d.keyName = .ok key := by
  unfold resolve at h
  split at h
  · obtain ⟨⟨key', buckets⟩, hkey, h⟩ := bind_eq_ok_iff.mp h
    have hname := Dimension.keyName_of_resolve hkey
    cases buckets with
    | none =>
      obtain ⟨rfl, _⟩ := Prod.mk.inj (pure_eq_ok_iff.mp h)
      exact hname
    | some c =>
      obtain ⟨_, _, h⟩ := bind_eq_ok_iff.mp h
      obtain ⟨rfl, _⟩ := Prod.mk.inj (pure_eq_ok_iff.mp h)
      exact hname
  · obtain ⟨key', hkey, h⟩ := bind_eq_ok_iff.mp h
    obtain ⟨rfl, _⟩ := Prod.mk.inj (pure_eq_ok_iff.mp h)
    exact hkey

theorem resolveAll_cons_eq_ok_iff {site : Site} {d : Dimension} {rest : List Dimension}
    {ds ds' : Dataset} {keys : List String} :
    resolveAll site ds (d :: rest) = (ds', .ok keys) ↔ ∃ key ds₁ more,
      resolve site ds d = .ok (key, ds₁) ∧ resolveAll site ds₁ rest = (ds', .ok more) ∧
        keys = key :: more := by
  rw [resolveAll]
  cases hd : resolve site ds d with
  | error e => simp
  | ok answer =>
    obtain ⟨key, ds₁⟩ := answer
    rcases hrest : resolveAll site ds₁ rest with ⟨ds₂, outcome⟩
    cases outcome with
    | error e => simp [hrest, Except.map]
    | ok more => simp [hrest, Except.map, eq_comm]

theorem mapM_keyName_of_resolveAll {site : Site} {dims : List Dimension} {ds ds' : Dataset}
    {keys : List String} (h : resolveAll site ds dims = (ds', .ok keys)) :
    dims.mapM Dimension.keyName = .ok keys := by
  induction dims generalizing ds keys with
  | nil => exact (Prod.mk.inj h).2
  | cons d rest ih =>
    obtain ⟨key, ds₁, more, hkey, hrest, rfl⟩ := resolveAll_cons_eq_ok_iff.mp h
    exact mapM_cons_eq_ok_iff.mpr ⟨key, more, keyName_of_resolve hkey, ih hrest, rfl⟩

/-- A warehouse is planned for without looking at the dataset. -/
theorem resolveAll_warehouse_eq (ds : Dataset) (dims : List Dimension) :
    resolveAll .warehouse ds dims = (ds, dims.mapM Dimension.keyName) := by
  induction dims with
  | nil => rfl
  | cons d rest ih =>
    rw [List.mapM_cons]
    cases hkey : d.keyName with
    | error e =>
      rw [resolveAll, resolve, hkey]
      rfl
    | ok key =>
      have hstep : resolveAll .warehouse ds (d :: rest) = ((resolveAll .warehouse ds rest).1,
          (resolveAll .warehouse ds rest).2.map (key :: ·)) := by
        rw [resolveAll, resolve, hkey]
        rfl
      rw [hstep, ih]
      cases rest.mapM Dimension.keyName <;> rfl

theorem resolveAll_warehouse {dims : List Dimension} {keys : List String} (ds : Dataset)
    (h : dims.mapM Dimension.keyName = .ok keys) :
    resolveAll .warehouse ds dims = (ds, .ok keys) := by
  rw [resolveAll_warehouse_eq, h]

/-- Buckets are attached for an embedded database as they are here. -/
theorem resolveAll_embedded (ds : Dataset) (dims : List Dimension) :
    resolveAll .embedded ds dims = resolveAll .here ds dims := by
  induction dims generalizing ds with
  | nil => rfl
  | cons d rest ih =>
    have hresolve : resolve .embedded ds d = resolve .here ds d := rfl
    simp only [resolveAll, hresolve, ih]

end Plan

namespace Spec

variable {s : Spec} {site : Site} {ds ds' : Dataset} {p : Plan}

/-- **What a plan holds.**  It is made of the keys of the dimensions, whatever the dataset holds. -/
theorem plan_eq_ok (h : s.plan site ds = (ds', .ok p)) :
    s.validate = .ok () ∧ ∃ keys, Plan.resolveAll site ds s.dimensions = (ds', .ok keys) ∧
      s.dimensions.mapM Dimension.keyName = .ok keys ∧ p = s.planOf site keys := by
  unfold plan at h
  split at h
  · exact nomatch (Prod.mk.inj h).2
  · next hvalid =>
    rcases hkeys : Plan.resolveAll site ds s.dimensions with ⟨ds₁, outcome⟩
    rw [hkeys] at h
    cases outcome with
    | error e => exact nomatch (Prod.mk.inj h).2
    | ok keys =>
      obtain ⟨rfl, hp⟩ := Prod.mk.inj h
      exact ⟨hvalid, keys, rfl, Plan.mapM_keyName_of_resolveAll hkeys, (Except.ok.inj hp).symm⟩

theorem metricNames_of_plan (h : s.plan site ds = (ds', .ok p)) :
    p.metricNames = s.plannedMetrics := by
  obtain ⟨_, keys, _, _, rfl⟩ := plan_eq_ok h
  rfl

/-- A plan that is made here is made for an embedded database too. -/
theorem plan_embedded (h : s.plan .here ds = (ds', .ok p)) :
    s.plan .embedded ds = (ds', .ok { p with site := .embedded }) := by
  obtain ⟨hvalid, keys, hkeys, _, rfl⟩ := plan_eq_ok h
  unfold plan
  rw [hvalid, Plan.resolveAll_embedded, hkeys]
  rfl

/-- A plan that is made here is made for a warehouse too, which leaves the dataset as it is. -/
theorem plan_warehouse (h : s.plan .here ds = (ds', .ok p)) :
    s.plan .warehouse ds = (ds, .ok { p with site := .warehouse }) := by
  obtain ⟨hvalid, keys, _, hkeys, rfl⟩ := plan_eq_ok h
  unfold plan
  rw [hvalid, Plan.resolveAll_warehouse ds hkeys]
  rfl

/-! ## When the names of a plan differ -/

/-- No bucket has the name of a column that is grouped by or of a measure, and the measure that is
added to a report without measures has a name of its own. -/
structure NamesApart (s : Spec) : Prop where
  buckets : ∀ d ∈ s.dimensions, ∀ g, d.grain = .ok (some g) →
    ∀ e ∈ s.dimensions, e.grain = .ok none → Dimension.bucketName d.name g ≠ e.name
  measures : ∀ d ∈ s.dimensions, ∀ g, d.grain = .ok (some g) →
    Dimension.bucketName d.name g ∉ s.metricNames
  count : s.metrics = [] → ∀ e ∈ s.dimensions, e.grain = .ok none → e.name ≠ Plan.countName

theorem plannedMetrics_of_nil (h : s.metrics = []) : s.plannedMetrics = [Plan.countName] := by
  simp [plannedMetrics, h]

theorem plannedMetrics_of_ne_nil (h : s.metrics ≠ []) : s.plannedMetrics = s.metricNames := by
  simp [plannedMetrics, h]

section

variable {keys : List String} (hkeys : s.dimensions.mapM Dimension.keyName = .ok keys)

include hkeys

theorem keys_eq_map_key : keys = s.dimensions.map Dimension.key := by
  have hview : keys.map id = s.dimensions.map Dimension.key :=
    map_eq_map_of_mapM_eq_ok (fun _ _ h => Dimension.eq_key_of_keyName h) hkeys
  rwa [List.map_id] at hview

theorem grain_cases {d : Dimension} (hd : d ∈ s.dimensions) :
    d.grain = .ok none ∨ ∃ g, d.grain = .ok (some g) := by
  obtain ⟨k, _, hk⟩ := exists_mem_of_mapM_eq_ok hkeys hd
  exact (Dimension.keyName_eq_ok_iff.mp hk).imp And.left fun ⟨g, hg, _⟩ => ⟨g, hg⟩

/-- Different dimensions have different keys, unless a bucket has the name of a dimension. -/
theorem nodup_keys (hnames : (s.dimensions.map (·.name)).Nodup)
    (hbuckets : ∀ d ∈ s.dimensions, ∀ g, d.grain = .ok (some g) →
      ∀ e ∈ s.dimensions, e.grain = .ok none → Dimension.bucketName d.name g ≠ e.name) :
    keys.Nodup := by
  rw [keys_eq_map_key hkeys]
  refine List.Nodup.map_on ?_ (List.Nodup.of_map _ hnames)
  have hname := List.inj_on_of_nodup_map hnames
  intro d hd e he heq
  rcases grain_cases hkeys hd with hplain | ⟨g, hg⟩
  · rcases grain_cases hkeys he with hplain' | ⟨g', hg'⟩
    · rw [Dimension.key_of_plain hplain, Dimension.key_of_plain hplain'] at heq
      exact hname hd he heq
    · rw [Dimension.key_of_plain hplain, Dimension.key_of_bucket hg'] at heq
      exact absurd heq.symm (hbuckets e he g' hg' d hd hplain)
  · rcases grain_cases hkeys he with hplain' | ⟨g', hg'⟩
    · rw [Dimension.key_of_bucket hg, Dimension.key_of_plain hplain'] at heq
      exact absurd heq (hbuckets d hd g hg e he hplain')
    · rw [Dimension.key_of_bucket hg, Dimension.key_of_bucket hg'] at heq
      exact hname hd he (Dimension.bucketName_inj heq).1

/-- No key has the name of a measure, unless a bucket has, or a dimension that of the number of
rows. -/
theorem keys_ne_plannedMetrics (hvalid : s.validate = .ok ()) (h : s.NamesApart) {k m : String}
    (hk : k ∈ keys) (hm : m ∈ s.plannedMetrics) : k ≠ m := by
  rw [keys_eq_map_key hkeys] at hk
  obtain ⟨d, hd, rfl⟩ := List.mem_map.mp hk
  by_cases hmetrics : s.metrics = []
  · rw [plannedMetrics_of_nil hmetrics, List.mem_singleton] at hm
    rw [hm]
    rcases grain_cases hkeys hd with hplain | ⟨g, hg⟩
    · rw [Dimension.key_of_plain hplain]
      exact h.count hmetrics d hd hplain
    · rw [Dimension.key_of_bucket hg]
      exact Dimension.bucketName_ne_countName d.name g
  · rw [plannedMetrics_of_ne_nil hmetrics] at hm
    rcases grain_cases hkeys hd with hplain | ⟨g, hg⟩
    · rw [Dimension.key_of_plain hplain]
      have hapart := (List.nodup_append.mp (nodup_names_of_validate hvalid)).2.2
      exact hapart d.name (List.mem_map_of_mem hd) m hm
    · rw [Dimension.key_of_bucket hg]
      exact fun heq => h.measures d hd g hg (heq ▸ hm)

/-- **When the names of a plan differ.**  Of a specification that is checked, the keys and measures
have different names if and only if the names that are made of others stay apart. -/
theorem nodup_keys_append_iff (hvalid : s.validate = .ok ()) :
    (keys ++ s.plannedMetrics).Nodup ↔ s.NamesApart := by
  obtain ⟨hdims, hmetrics, _⟩ := List.nodup_append.mp (nodup_names_of_validate hvalid)
  have hkey : ∀ {d}, d ∈ s.dimensions → d.key ∈ keys := by
    intro d hd
    rw [keys_eq_map_key hkeys]
    exact List.mem_map_of_mem hd
  constructor
  · intro h
    obtain ⟨hnodup, _, hapart⟩ := List.nodup_append.mp h
    refine ⟨?_, ?_, ?_⟩
    · intro d hd g hg e he hplain heq
      rw [← Dimension.key_of_bucket hg, ← Dimension.key_of_plain hplain] at heq
      rw [keys_eq_map_key hkeys] at hnodup
      obtain rfl := List.inj_on_of_nodup_map hnodup hd he heq
      rw [hg] at hplain
      exact nomatch hplain
    · intro d hd g hg hmem
      have hne : s.metrics ≠ [] := by
        intro hnil
        rw [metricNames, hnil] at hmem
        exact nomatch hmem
      rw [← plannedMetrics_of_ne_nil hne, ← Dimension.key_of_bucket hg] at hmem
      exact hapart _ (hkey hd) _ hmem rfl
    · intro hnil e he hplain heq
      rw [← Dimension.key_of_plain hplain] at heq
      have hcount : Plan.countName ∈ s.plannedMetrics := by simp [plannedMetrics_of_nil hnil]
      exact hapart _ (hkey he) _ hcount heq
  · intro h
    refine List.nodup_append.mpr ⟨nodup_keys hkeys hdims h.buckets, ?_, ?_⟩
    · by_cases hnil : s.metrics = []
      · rw [plannedMetrics_of_nil hnil]
        exact List.nodup_singleton _
      · rwa [plannedMetrics_of_ne_nil hnil]
    · intro k hk m hm
      exact keys_ne_plannedMetrics hkeys hvalid h hk hm

end

/-! ## What depends on it -/

/-- A grouped table has all columns of keys and measures, unless one hides another one. -/
theorem names_of_grouped {t : Frame} (h : s.grouped ds p = .ok t) :
    t.names = p.groupKeys ++ s.plannedMetrics ↔ (p.groupKeys ++ s.plannedMetrics).Nodup := by
  constructor
  · intro hnames
    obtain ⟨f, f', groups, measures, t₀, _, _, _, _, ht₀, h⟩ := grouped_eq_ok_iff.mp h
    have hwf := Frame.wellFormed_foldlM_insert (Frame.wellFormed_withLen _) ht₀
    obtain ⟨rows, _, rfl⟩ := Frame.restrict_eq_ok hwf h
    exact hnames ▸ (Frame.wellFormed_take hwf rows).nodup_names
  · intro hnames
    exact (wellFormed_of_grouped hnames h).2.1

theorem map_name_keyItems {dialect : Dialect} {source : KeySource} {keys : List String}
    {items : List Sql.Item} (hlen : keys.length = s.dimensions.length)
    (h : s.keyItems dialect source keys = .ok items) : items.map (·.name) = keys := by
  have hzip : (s.dimensions.zip keys).map Prod.snd = keys :=
    List.map_snd_zip (Nat.le_of_eq hlen)
  rw [← hzip]
  refine map_eq_map_of_mapM_eq_ok ?_ h
  rintro ⟨d, key⟩ item hitem
  obtain ⟨_, _, hitem⟩ := bind_eq_ok_iff.mp hitem
  obtain rfl := pure_eq_ok_iff.mp hitem
  rfl

theorem map_name_metricItems {dialect : Dialect} {items : List Sql.Item}
    (h : s.metricItems dialect = .ok items) : items.map (·.name) = s.plannedMetrics := by
  unfold metricItems at h
  split at h
  · next hnil =>
    obtain ⟨_, _, h⟩ := bind_eq_ok_iff.mp h
    obtain rfl := pure_eq_ok_iff.mp h
    exact (plannedMetrics_of_nil hnil).symm
  · next hne =>
    rw [plannedMetrics_of_ne_nil hne]
    refine map_eq_map_of_mapM_eq_ok ?_ h
    intro m item hitem
    obtain ⟨_, _, hitem⟩ := bind_eq_ok_iff.mp hitem
    obtain rfl := pure_eq_ok_iff.mp hitem
    rfl

/-- The aliases of a statement are the names of the plan. -/
theorem map_name_of_query {dialect : Dialect} {table : String} {source : KeySource} {q : Sql.Query}
    (hlen : p.groupKeys.length = s.dimensions.length)
    (h : s.query p dialect table source = .ok q) :
    (q.keys ++ q.aggregates).map (·.name) = p.groupKeys ++ s.plannedMetrics := by
  obtain ⟨keys, hkeys, h⟩ := bind_eq_ok_iff.mp h
  obtain ⟨metrics, hmetrics, h⟩ := bind_eq_ok_iff.mp h
  obtain ⟨_, _, h⟩ := bind_eq_ok_iff.mp h
  obtain ⟨_, _, h⟩ := bind_eq_ok_iff.mp h
  obtain rfl := pure_eq_ok_iff.mp h
  rw [List.map_append, map_name_keyItems hlen hkeys, map_name_metricItems hmetrics]

/-- **When a planned report has colliding names.**  The check of a specification is about the names
of dimensions and measures.  The names of its plan differ if and only if, in addition, the names
that are made of these stay apart; then, and only then, no column of the grouped table hides another
one and no two items of a statement have one alias. -/
theorem names_differ_iff (h : s.plan site ds = (ds', .ok p)) :
    ((p.groupKeys ++ p.metricNames).Nodup ↔ s.NamesApart) ∧
    (∀ t, s.grouped ds' p = .ok t →
      (t.names = p.groupKeys ++ p.metricNames ↔ s.NamesApart)) ∧
    ∀ dialect table source q, s.query p dialect table source = .ok q →
      (((q.keys ++ q.aggregates).map (·.name)).Nodup ↔ s.NamesApart) := by
  obtain ⟨hvalid, keys, _, hkeys, rfl⟩ := plan_eq_ok h
  have hgroup := groupKeys_planOf s site keys
  have hnodup := nodup_keys_append_iff hkeys hvalid
  have hmetrics : (s.planOf site keys).metricNames = s.plannedMetrics := rfl
  rw [hgroup, hmetrics]
  refine ⟨hnodup, ?_, ?_⟩
  · intro t ht
    have hnames := names_of_grouped ht
    rw [hgroup] at hnames
    exact hnames.trans hnodup
  · intro dialect table source q hq
    have hlen : (s.planOf site keys).groupKeys.length = s.dimensions.length := by
      rw [hgroup, length_of_mapM_eq_ok hkeys]
    rw [map_name_of_query hlen hq, hgroup]
    exact hnodup

/-- Visits of three days. -/
def visits : Dataset := .ofFrame ⟨[⟨"rows", [.text "a", .text "b", .text "a"]⟩], 3⟩

/-- A report about a column that has the name of the number of rows. -/
def visitsByRows : Spec where
  rows := [{ name := "rows" }]

/-- A report without measures that groups by a column named `rows` is planned; the number of rows
has the name of the key, hides it, and labels the rows itself. -/
theorem planned_names_collide :
    visitsByRows.plan .here visits = (visits, .ok ⟨.here, ["rows"], [], [], ["rows"]⟩) ∧
    ¬(["rows"] ++ ["rows"]).Nodup ∧
    visitsByRows.grouped visits ⟨.here, ["rows"], [], [], ["rows"]⟩ =
      .ok ⟨[⟨"rows", [.int 2, .int 1]⟩], 2⟩ := by
  refine ⟨rfl, by decide, rfl⟩

/-- The number of visits by city and month. -/
def visitsByMonth : Spec where
  rows := [{ name := "city" }]
  columns := [{ name := "day", timeGrain := some "month" }]

/-- The months have a name that no one else has. -/
theorem names_differ_visitsByMonth :
    (["city", "__day@month__"] ++ ["rows"]).Nodup ∧ visitsByMonth.NamesApart := by
  have hplan : visitsByMonth.plan .warehouse visits =
      (visits, .ok ⟨.warehouse, ["city"], ["__day@month__"], [], ["rows"]⟩) := rfl
  exact ⟨by decide, (names_differ_iff hplan).1.mp (by decide)⟩

end Spec

end Crosstab
