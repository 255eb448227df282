import Crosstab.Proofs.Expr.Readable
import Crosstab.Report.Spec

/-!
# Specifications read back from their structured forms

A specification whose floats are all finite is read back from its structured form
(`Spec.ofJson_toJson`), also where keys with their defaults are left out and unknown keys are added
(`Spec.ofJson_loosened`).
-/

namespace Crosstab

/-! ## Dimensions, measures and sort keys -/

theorem Role.choice?_name (role : Role) :
    Json.choice? false Role.choices (.string role.name) = some role := by
  cases role <;> rfl

theorem Dimension.ofJson?_loosened (d : Dimension) {w : Json}
    (hw : Json.Loosened (.record .dimension) d.toJson.canonical w) :
    ofJson? w.canonical = some d := by
  obtain ⟨r, ho, hr⟩ := Json.Loosened.open? .dimension
    [("name", .string d.name), ("role", .string d.role.name), ("levels", .strings d.levels),
      ("time_grain", .ofOption .string d.timeGrain)] hw
    fieldNames rfl rfl (by decide) (Nat.lt_succ_self _)
  have hname : r.required "name" Json.string? = some d.name := hr.required_value "name" rfl rfl rfl
  have hrole := hr.withDefault_value "role" .row rfl rfl d.role.choice?_name rfl
  have hlevels : r.withDefault "levels" [] (Json.list? Json.string?) = some d.levels :=
    hr.withDefault_value "levels" [] rfl rfl (Json.list?_canonical fun _ _ => rfl) rfl
  have hgrain : r.omissible "time_grain" Json.string? = some d.timeGrain :=
    hr.omissible_value "time_grain" rfl rfl (fun _ _ => rfl) rfl
  rw [ofJson?, ho]
  simp [hname, hrole, hlevels, hgrain]

theorem Spec.sortKeyOfJson?_loosened (k : SortKey) {w : Json}
    (hw : Json.Loosened (.record .sortKey) (sortKeyToJson k).canonical w) :
    sortKeyOfJson? w.canonical = some k := by
  obtain ⟨r, ho, hr⟩ := Json.Loosened.open? .sortKey
    [("name", .string k.name), ("ascending", .bool k.ascending)] hw
    sortKeyFields rfl rfl (by decide) (Nat.lt_succ_self _)
  have hname : r.required "name" Json.string? = some k.name := hr.required_value "name" rfl rfl rfl
  have hascending : r.withDefault "ascending" false Json.bool? = some k.ascending :=
    hr.withDefault_value "ascending" false rfl rfl rfl rfl
  rw [sortKeyOfJson?, ho]
  simp [hname, hascending]

/-- All floats of a measure are finite. -/
def Measure.Finite : Measure → Prop
  | row _ _ e => e.Finite
  | group _ a => a.Finite

theorem Measure.choice?_name (r : Reduction) :
    Json.choice? true reductionChoices (.string r.name) = some r := by
  cases r <;> rfl

theorem Measure.ofJson?_loosened {m : Measure} (h : m.Finite) {w : Json}
    (hw : Json.Loosened (.tagged .measure) m.toJson.canonical w) :
    ofJson? w.canonical = some m := by
  cases m with
  | row name reduction e =>
    obtain ⟨body, r, hu, ho, hr⟩ := Json.Loosened.untag? .measure "row_measure"
      [("name", .string name), ("agg", .string reduction.name), ("expr", e.structured)] hw false
      ["row_measure", "agg_measure"] ["name", "agg", "expr"] (by decide) rfl rfl rfl (by decide)
      (Nat.lt_succ_self _)
    have hname : r.required "name" Json.string? = some name :=
      hr.required_value "name" rfl rfl rfl
    have hagg := hr.withDefault_value "agg" .mean rfl rfl (choice?_name reduction) rfl
    have hexpr := hr.required_eq "expr" rfl rfl fun w hw _ => Expr.ofJson?_loosened h true hw
    refine Option.bind_eq_some_iff.mpr ⟨_, hu, ?_⟩
    simp [ho, hname, hagg, hexpr]
  | group name a =>
    obtain ⟨body, r, hu, ho, hr⟩ := Json.Loosened.untag? .measure "agg_measure"
      [("name", .string name), ("agg_expr", a.toJson)] hw false
      ["row_measure", "agg_measure"] ["name", "agg_expr"] (by decide) rfl rfl rfl (by decide)
      (Nat.lt_succ_self _)
    have hname : r.required "name" Json.string? = some name :=
      hr.required_value "name" rfl rfl rfl
    have hagg := hr.required_eq "agg_expr" rfl rfl fun w hw _ => Aggregate.ofJson?_loosened h hw
    refine Option.bind_eq_some_iff.mpr ⟨_, hu, ?_⟩
    simp [ho, hname, hagg]

theorem Measure.ofJson?_yields : Json.Yields Measure.ofJson? Measure.Finite := by
  intro v hv m hm
  obtain ⟨⟨kind, body⟩, hu, hm⟩ := Option.bind_eq_some_iff.mp hm
  have hbody : body.Valid := hv.untag? hu
  dsimp only at hm
  split at hm
  · obtain ⟨r, ho, hm⟩ := Option.bind_eq_some_iff.mp hm
    obtain ⟨name, -, hm⟩ := Option.bind_eq_some_iff.mp hm
    obtain ⟨reduction, -, hm⟩ := Option.bind_eq_some_iff.mp hm
    obtain ⟨e, he, hm⟩ := Option.bind_eq_some_iff.mp hm
    cases hm
    exact (Expr.ofJson?_yields true).required (hbody.open? ho) he
  · obtain ⟨r, ho, hm⟩ := Option.bind_eq_some_iff.mp hm
    obtain ⟨name, -, hm⟩ := Option.bind_eq_some_iff.mp hm
    obtain ⟨a, ha, hm⟩ := Option.bind_eq_some_iff.mp hm
    cases hm
    exact (Aggregate.ofJson?_yields true).required (hbody.open? ho) ha

/-! ## Specifications -/

namespace Spec

/-- All floats of a specification are finite. -/
structure Finite (s : Spec) : Prop where
  metrics : ∀ m ∈ s.metrics, m.Finite
  filter : ∀ p ∈ s.filter, p.Finite
  having : ∀ p ∈ s.having, p.Finite

/-- A specification is read back from every loosened form. -/
theorem read?_loosened {s : Spec} (h : s.Finite) {w : Json}
    (hw : Json.Loosened (.record .spec) s.toJson w) : read? w.canonical = some s := by
  obtain ⟨r, ho, hr⟩ := Json.Loosened.open? .spec
    [("rows", .array (s.rows.map Dimension.toJson)),
      ("columns", .array (s.columns.map Dimension.toJson)),
      ("slicers", .array (s.slicers.map Dimension.toJson)),
      ("metrics", .array (s.metrics.map Measure.toJson)),
      ("where", .ofOption Condition.structured s.filter),
      ("having", .ofOption Condition.structured s.having),
      ("sort_by", .array (s.sortBy.map sortKeyToJson)),
      ("topn", .ofOption (fun n : Nat => .whole n) s.topN),
      ("limit", .ofOption (fun n : Nat => .whole n) s.limit),
      ("totals", .bool s.totals)] hw fieldNames rfl rfl (by decide) (Nat.lt_succ_self _)
  have hdimensions (name : String) (ds : List Dimension) (hkey) (hvalue) :
      r.withDefault name [] (Json.list? Dimension.ofJson?) = some ds :=
    hr.list_eq name hkey hvalue fun d _ w hw => d.ofJson?_loosened hw
  have hcondition (name : String) (o : Option Condition) (ho : ∀ p ∈ o, p.Finite) (hkey)
      (hvalue : _ = some (Json.ofOption Condition.structured o)) :
      r.omissible name (Condition.ofJson? false) = some o :=
    hr.omissible_eq name hkey hvalue
      (fun p hp w hw _ => Condition.ofJson?_loosened (ho p hp) false hw) rfl
      fun p _ => p.toJson_canonical_ne_null
  have hcount (name : String) (o : Option Nat) (hkey)
      (hvalue : _ = some (Json.ofOption (fun n : Nat => .whole n) o)) :
      r.omissible name Json.count? = some o :=
    hr.omissible_value name hkey hvalue (fun _ _ => rfl) rfl
  have hmetrics := hr.list_eq "metrics" rfl rfl
    fun m hm w hw => Measure.ofJson?_loosened (h.metrics m hm) hw
  have hsortBy := hr.list_eq "sort_by" rfl rfl fun k _ w hw => sortKeyOfJson?_loosened k hw
  have htotals : r.withDefault "totals" false Json.bool? = some s.totals :=
    hr.withDefault_value "totals" false rfl rfl rfl rfl
  rw [read?, ho]
  simp [hdimensions "rows" s.rows rfl rfl, hdimensions "columns" s.columns rfl rfl,
    hdimensions "slicers" s.slicers rfl rfl, hmetrics,
    hcondition "where" s.filter h.filter rfl rfl, hcondition "having" s.having h.having rfl rfl,
    hsortBy, hcount "topn" s.topN rfl rfl, hcount "limit" s.limit rfl rfl, htotals]

/-- A specification is read back from its structured form. -/
theorem read?_toJson {s : Spec} (h : s.Finite) : read? s.toJson.canonical = some s :=
  read?_loosened h (.same _ _)

/-- Only finite specifications are read. -/
theorem read?_yields : Json.Yields read? Finite := by
  intro v hv s hs
  obtain ⟨r, ho, hs⟩ := Option.bind_eq_some_iff.mp hs
  have hr : r.Valid := hv.open? ho
  obtain ⟨rows, -, hs⟩ := Option.bind_eq_some_iff.mp hs
  obtain ⟨columns, -, hs⟩ := Option.bind_eq_some_iff.mp hs
  obtain ⟨slicers, -, hs⟩ := Option.bind_eq_some_iff.mp hs
  obtain ⟨metrics, hmetrics, hs⟩ := Option.bind_eq_some_iff.mp hs
  obtain ⟨filter, hfilter, hs⟩ := Option.bind_eq_some_iff.mp hs
  obtain ⟨having, hhaving, hs⟩ := Option.bind_eq_some_iff.mp hs
  obtain ⟨sortBy, -, hs⟩ := Option.bind_eq_some_iff.mp hs
  obtain ⟨topN, -, hs⟩ := Option.bind_eq_some_iff.mp hs
  obtain ⟨limit, -, hs⟩ := Option.bind_eq_some_iff.mp hs
  obtain ⟨totals, -, hs⟩ := Option.bind_eq_some_iff.mp hs
  cases hs
  exact ⟨Measure.ofJson?_yields.list?.withDefault hr (List.forall_mem_nil _) hmetrics,
    (Condition.ofJson?_yields false).omissible hr hfilter,
    (Condition.ofJson?_yields false).omissible hr hhaving⟩

theorem ofJson_eq_ok_iff {v : Json} {s : Spec} : ofJson v = .ok s ↔ read? v.canonical = some s := by
  unfold ofJson
  cases read? v.canonical with
  | none => exact ⟨fun h => (nomatch h), fun h => (nomatch h)⟩
  | some t => simp

theorem finite_of_ofJson {v : Json} (hv : v.Valid) {s : Spec} (h : ofJson v = .ok s) : s.Finite :=
  read?_yields v.canonical hv.canonical s (ofJson_eq_ok_iff.mp h)

/-- **Specifications round-trip.**  A finite specification is read back from its structured form
and written the same way again, and every specification that is read from a valid value is such. -/
theorem ofJson_toJson :
    (∀ s : Spec, s.Finite → ∃ t, ofJson s.toJson = .ok t ∧ t = s ∧ t.toJson = s.toJson) ∧
      ∀ v : Json, v.Valid → ∀ s, ofJson v = .ok s →
        ∃ t, ofJson s.toJson = .ok t ∧ t = s ∧ t.toJson = s.toJson := by
  have hfinite (s : Spec) (hs : s.Finite) :
      ∃ t, ofJson s.toJson = .ok t ∧ t = s ∧ t.toJson = s.toJson :=
    ⟨s, ofJson_eq_ok_iff.mpr (read?_toJson hs), rfl, rfl⟩
  exact ⟨hfinite, fun v hv s hs => hfinite s (finite_of_ofJson hv hs)⟩

/-- A filter that compares with a half is written and read back, and so is what is read from a
value with a dimension and a limit. -/
theorem ofJson_toJson_half :
    (∃ t, ofJson (toJson { filter := some (.compare .gt (.column "x")
        (.literal (.float ⟨0x3FE0000000000000⟩))) }) = .ok t ∧
      t = { filter := some (.compare .gt (.column "x")
        (.literal (.float ⟨0x3FE0000000000000⟩))) } ∧
      t.toJson = toJson { filter := some (.compare .gt (.column "x")
        (.literal (.float ⟨0x3FE0000000000000⟩))) }) ∧
    (∃ t, ofJson (toJson { rows := [⟨"region", .row, [], none⟩], limit := some 5 }) = .ok t ∧
      t = { rows := [⟨"region", .row, [], none⟩], limit := some 5 } ∧
      t.toJson = toJson { rows := [⟨"region", .row, [], none⟩], limit := some 5 }) := by
  refine ⟨ofJson_toJson.1 _ ⟨?_, ?_, ?_⟩, ofJson_toJson.2 (.object
    [("limit", .whole 5), ("rows", .array [.object [("name", .string "region")]])]) ?_ _ rfl⟩
  · exact List.forall_mem_nil _
  · intro p hp
    cases hp
    exact ⟨trivial, (by decide : Binary64.isFinite ⟨0x3FE0000000000000⟩ = true)⟩
  · exact fun p hp => nomatch hp
  · simp [Json.Valid, Json.ValidFields, Json.ValidItems, Json.whole, Json.Number.Valid]

/-- **Reading tolerates omission and extension.**  A specification is read from its structured form
also where keys with their default values are left out and where unknown keys are added, at any
depth, and it has the same fingerprint then. -/
theorem ofJson_loosened {s : Spec} (h : s.Finite) {v : Json}
    (hv : Json.Loosened (.record .spec) s.toJson v) :
    ∃ t, ofJson v = .ok t ∧ t = s ∧ t.fingerprint = s.fingerprint :=
  ⟨s, ofJson_eq_ok_iff.mpr (read?_loosened h hv), rfl, rfl⟩

/-- A note and the marks of a column are not read, and a dimension that is only named has the other
defaults. -/
theorem ofJson_loosened_marked :
    ∃ t, ofJson (.object
      [("note", .string "draft"),
       ("where", .object
        [("expr", .object
          [("name", .string "city"), ("kind", .string "column"), ("marks", .array [.null])]),
         ("kind", .string "is_null")]),
       ("rows", .array [.object [("name", .string "region")]])]) = .ok t ∧
      t = { rows := [⟨"region", .row, [], none⟩], filter := some (.isNull (.column "city")) } ∧
      t.fingerprint = fingerprint
        { rows := [⟨"region", .row, [], none⟩], filter := some (.isNull (.column "city")) } := by
  refine ofJson_loosened ⟨List.forall_mem_nil _, ?_, ?_⟩ ?_
  · intro p hp
    cases hp
    exact trivial
  · exact fun p hp => nomatch hp
  · have hcity : Json.Loosened (.tagged .scalar) (Expr.structured (.column "city")).canonical
        (.object
          [("name", .string "city"), ("kind", .string "column"), ("marks", .array [.null])]) := by
      refine (Json.Loosened.object_iff rfl (by decide)).mpr ⟨_, rfl, by decide, ?_⟩
      simp only [List.forall_mem_cons]
      exact ⟨.of_kept rfl rfl (.same _ _), .of_kept rfl rfl (.same _ _), List.forall_mem_nil _⟩
    have hfilter : Json.Loosened (.tagged .predicate)
        (Condition.structured (.isNull (.column "city"))).canonical
        (.object
          [("expr", .object
            [("name", .string "city"), ("kind", .string "column"), ("marks", .array [.null])]),
           ("kind", .string "is_null")]) := by
      refine (Json.Loosened.object_iff rfl (by decide)).mpr ⟨_, rfl, by decide, ?_⟩
      simp only [List.forall_mem_cons]
      exact ⟨.of_kept rfl rfl (.same _ _), .of_kept rfl rfl hcity, List.forall_mem_nil _⟩
    have hregion : Json.Loosened (.record .dimension)
        (Dimension.toJson ⟨"region", .row, [], none⟩).canonical
        (.object [("name", .string "region")]) := by
      refine (Json.Loosened.object_iff rfl (by decide)).mpr ⟨_, rfl, by decide, ?_⟩
      simp only [Json.RecordKind.keys, List.forall_mem_cons]
      exact ⟨.of_kept rfl rfl (.same _ _), .of_gone rfl rfl rfl, .of_gone rfl rfl rfl,
        .of_gone rfl rfl rfl, List.forall_mem_nil _⟩
    refine (Json.Loosened.object_iff rfl (by decide)).mpr ⟨_, rfl, by decide, ?_⟩
    simp only [Json.RecordKind.keys, List.forall_mem_cons]
    exact ⟨.of_kept rfl rfl (.item hregion (.same _ _)), .of_gone rfl rfl rfl, .of_gone rfl rfl rfl,
      .of_gone rfl rfl rfl, .of_kept rfl rfl hfilter, .of_gone rfl rfl rfl, .of_gone rfl rfl rfl,
      .of_gone rfl rfl rfl, .of_gone rfl rfl rfl, .of_gone rfl rfl rfl, List.forall_mem_nil _⟩

end Spec

end Crosstab
