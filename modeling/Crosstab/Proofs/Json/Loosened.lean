import Crosstab.Proofs.Json.Record

/-!
# Values with keys left out and added

Clients need not write a specification as it is written here.  They may leave out a key whose value
is its default, and they may add keys of their own to any object but a tagged date or timestamp.
The keys of every object and their defaults are listed by the place of the object (`Place.keys?`),
and `Loosened p v w` says that at a place `p` the value `w` is `v` with such keys left out and
added.  A default is that very value: a fill of negative zero is not the default, which is positive.

Opened as records, both show the same (`Loosened.open?`, `Loosened.untag?`): a key that is kept has
a loosened value, and a key that is left out had its default (`Record.Follows`).
-/

namespace Crosstab.Json

/-! ## Places -/

/-- The objects without a tag. -/
inductive RecordKind where
  | spec
  | dimension
  | sortKey
  | branch

/-- The objects with a tag. -/
inductive TaggedKind where
  | measure
  | aggregate
  | scalar
  | predicate

/-- What is expected at a place of a structured form. -/
inductive Place where
  /-- A value to which nothing is added and from which nothing is left out: a name, a number, a
  truth value, a cell, or a list of names or cells. -/
  | value
  /-- A list. -/
  | list (item : Place)
  /-- An object without a tag. -/
  | record (kind : RecordKind)
  /-- An object with a tag. -/
  | tagged (kind : TaggedKind)

/-- A key of an object. -/
structure Key where
  /-- The key itself. -/
  name : String
  /-- What its value is. -/
  place : Place
  /-- The value that a missing key stands for; a key without one must be there. -/
  default : Option Json

/-- The keys of the objects without a tag. -/
def RecordKind.keys : RecordKind → List Key
  | spec =>
    [⟨"rows", .list (.record .dimension), some (.array [])⟩,
     ⟨"columns", .list (.record .dimension), some (.array [])⟩,
     ⟨"slicers", .list (.record .dimension), some (.array [])⟩,
     ⟨"metrics", .list (.tagged .measure), some (.array [])⟩,
     ⟨"where", .tagged .predicate, some .null⟩,
     ⟨"having", .tagged .predicate, some .null⟩,
     ⟨"sort_by", .list (.record .sortKey), some (.array [])⟩,
     ⟨"topn", .value, some .null⟩,
     ⟨"limit", .value, some .null⟩,
     ⟨"totals", .value, some (.bool false)⟩]
  | dimension =>
    [⟨"name", .value, none⟩,
     ⟨"role", .value, some (.string "row")⟩,
     ⟨"levels", .value, some (.array [])⟩,
     ⟨"time_grain", .value, some .null⟩]
  | sortKey => [⟨"name", .value, none⟩, ⟨"ascending", .value, some (.bool false)⟩]
  | branch => [⟨"when", .tagged .predicate, none⟩, ⟨"then", .tagged .scalar, none⟩]

/-- The key of the tag. -/
def TaggedKind.field : TaggedKind → String
  | measure => "type"
  | aggregate => "kind"
  | scalar => "kind"
  | predicate => "kind"

/-- The keys of the objects with a tag, besides the tag. -/
def TaggedKind.keys? : TaggedKind → String → Option (List Key)
  | measure, "row_measure" => some
    [⟨"name", .value, none⟩,
     ⟨"agg", .value, some (.string "mean")⟩,
     ⟨"expr", .tagged .scalar, none⟩]
  | measure, "agg_measure" => some
    [⟨"name", .value, none⟩, ⟨"agg_expr", .tagged .aggregate, none⟩]
  | aggregate, "sum" => some [⟨"expr", .tagged .scalar, none⟩]
  | aggregate, "avg" => some [⟨"expr", .tagged .scalar, none⟩]
  | aggregate, "min" => some [⟨"expr", .tagged .scalar, none⟩]
  | aggregate, "max" => some [⟨"expr", .tagged .scalar, none⟩]
  | aggregate, "nunique" => some [⟨"expr", .tagged .scalar, none⟩]
  | aggregate, "count" => some [⟨"expr", .tagged .scalar, some .null⟩]
  | aggregate, "ratio_of_sums" => some
    [⟨"numerator", .tagged .scalar, none⟩,
     ⟨"denominator", .tagged .scalar, none⟩,
     ⟨"fill", .value, some (.ofFloat Binary64.zero)⟩]
  | scalar, "column" => some [⟨"name", .value, none⟩]
  | scalar, "literal" => some [⟨"value", .value, none⟩]
  | scalar, "binary" => some
    [⟨"op", .value, none⟩,
     ⟨"left", .tagged .scalar, none⟩,
     ⟨"right", .tagged .scalar, none⟩]
  | scalar, "safe_div" => some
    [⟨"numerator", .tagged .scalar, none⟩,
     ⟨"denominator", .tagged .scalar, none⟩,
     ⟨"fill", .value, some (.ofFloat Binary64.zero)⟩]
  | scalar, "coalesce" => some [⟨"exprs", .list (.tagged .scalar), none⟩]
  | scalar, "case_when" => some
    [⟨"whens", .list (.record .branch), none⟩, ⟨"otherwise", .tagged .scalar, some .null⟩]
  | scalar, "fragment" => some [⟨"sql", .value, none⟩]
  | predicate, "cmp" => some
    [⟨"op", .value, none⟩,
     ⟨"left", .tagged .scalar, none⟩,
     ⟨"right", .tagged .scalar, none⟩]
  | predicate, "in" => some [⟨"expr", .tagged .scalar, none⟩, ⟨"values", .value, none⟩]
  | predicate, "between" => some
    [⟨"expr", .tagged .scalar, none⟩,
     ⟨"left", .value, none⟩,
     ⟨"right", .value, none⟩,
     ⟨"inclusive", .value, some (.string "both")⟩]
  | predicate, "is_null" => some [⟨"expr", .tagged .scalar, none⟩]
  | predicate, "bool" => some
    [⟨"op", .value, none⟩,
     ⟨"left", .tagged .predicate, none⟩,
     ⟨"right", .tagged .predicate, none⟩]
  | predicate, "not" => some [⟨"expr", .tagged .predicate, none⟩]
  | predicate, "like" => some
    [⟨"expr", .tagged .scalar, none⟩,
     ⟨"pattern", .tagged .scalar, none⟩,
     ⟨"ci", .value, some (.bool false)⟩,
     ⟨"neg", .value, some (.bool false)⟩]
  | predicate, "regex" => some
    [⟨"expr", .tagged .scalar, none⟩,
     ⟨"pattern", .tagged .scalar, none⟩,
     ⟨"flags", .value, some (.string "")⟩,
     ⟨"neg", .value, some (.bool false)⟩]
  | predicate, "sql" => some
    [⟨"sql", .value, none⟩, ⟨"dialect", .value, some (.string "ansi")⟩]
  | _, _ => none

/-- The keys of an object at a place; where there is a tag, it tells which other keys there are. -/
def Place.keys? : Place → List (String × Json) → Option (List Key)
  | .record kind, _ => some kind.keys
  | .tagged kind, fields => match fields.lookup kind.field with
    | some (.string tag) => (kind.keys? tag).map (⟨kind.field, .value, none⟩ :: ·)
    | _ => none
  | _, _ => none

/-! ## Loosened values -/

/-- At the place `p` the value `w` is `v` with keys left out whose value is their default, and with
keys added that are not among those of their object; the order of keys does not matter.  What is
written has all keys of its objects, so that the further ones of `w` are unknown. -/
inductive Loosened : Place → Json → Json → Prop
  | same (p : Place) (v : Json) : Loosened p v v
  | item {p : Place} {v w : Json} {vs ws : List Json} (head : Loosened p v w)
      (tail : Loosened (.list p) (.array vs) (.array ws)) :
      Loosened (.list p) (.array (v :: vs)) (.array (w :: ws))
  | object {p : Place} {keys : List Key} {vs ws : List (String × Json)}
      (hkeys : p.keys? vs = some keys) (hnodup : (ws.map (·.1)).Nodup)
      (kept : ∀ k ∈ keys, ∀ v w, vs.lookup k.name = some v → ws.lookup k.name = some w →
        Loosened k.place v w)
      (gone : ∀ k ∈ keys, ∀ v, vs.lookup k.name = some v → ws.lookup k.name = none →
        k.default = some v) :
      Loosened p (.object vs) (.object ws)

namespace Loosened

variable {p : Place} {v w : Json}

theorem value_eq (h : Loosened .value v w) : w = v := by
  cases h with
  | same => rfl
  | object hkeys => exact nomatch hkeys

theorem null_eq (h : Loosened p .null w) : w = .null := by
  cases h
  rfl

theorem nil_eq (h : Loosened (.list p) (.array []) w) : w = .array [] := by
  cases h
  rfl

theorem cons_inv {vs : List Json} (h : Loosened (.list p) (.array (v :: vs)) w) :
    ∃ u us, w = .array (u :: us) ∧ Loosened p v u ∧ Loosened (.list p) (.array vs) (.array us) := by
  cases h with
  | same => exact ⟨v, vs, rfl, .same _ _, .same _ _⟩
  | item head tail => exact ⟨_, _, rfl, head, tail⟩

end Loosened

/-- The key has a loosened value among the fields `ws`, or it is left out there and had its default
among the fields `fields`. -/
def Key.Follows (k : Key) (fields ws : List (String × Json)) : Prop :=
  ∀ v, fields.lookup k.name = some v →
    (∃ w, ws.lookup k.name = some w ∧ Loosened k.place v.canonical w) ∨
      (ws.lookup k.name = none ∧ k.default = some v.canonical)

theorem Key.Follows.of_kept {k : Key} {fields ws : List (String × Json)} {v w : Json}
    (hv : fields.lookup k.name = some v) (hw : ws.lookup k.name = some w)
    (h : Loosened k.place v.canonical w) : k.Follows fields ws := by
  intro u hu
  obtain rfl := Option.some.inj (hu.symm.trans hv)
  exact .inl ⟨w, hw, h⟩

theorem Key.Follows.of_gone {k : Key} {fields ws : List (String × Json)} {v : Json}
    (hv : fields.lookup k.name = some v) (hw : ws.lookup k.name = none)
    (h : k.default = some v.canonical) : k.Follows fields ws := by
  intro u hu
  obtain rfl := Option.some.inj (hu.symm.trans hv)
  exact .inr ⟨hw, h⟩

/-- An object is loosened to one in which each of its keys has a loosened value, or is left out and
had its default. -/
theorem Loosened.object_iff {p : Place} {w : Json} {keys : List Key} {fields : List (String × Json)}
    (hkeys : p.keys? (sortFields (canonicalFields fields)) = some keys)
    (hnodup : (fields.map (·.1)).Nodup) :
    Loosened p (canonical (.object fields)) w ↔
      ∃ ws, w = .object ws ∧ (ws.map (·.1)).Nodup ∧ ∀ k ∈ keys, k.Follows fields ws := by
  have hlookup (k : Key) (v : Json) :
      (sortFields (canonicalFields fields)).lookup k.name = some v ↔
        ∃ u, fields.lookup k.name = some u ∧ u.canonical = v := by
    rw [lookup_sortFields_canonicalFields hnodup, Option.map_eq_some_iff]
  rw [canonical_object]
  constructor
  · intro h
    cases h with
    | same =>
      refine ⟨_, rfl, nodup_sortFields_canonicalFields hnodup, fun k _ v hv => ?_⟩
      exact .inl ⟨v.canonical, (hlookup k _).mpr ⟨v, hv, rfl⟩, .same _ _⟩
    | @object _ keys' _ ws hkeys' hws kept gone =>
      obtain rfl : keys' = keys := Option.some.inj (hkeys'.symm.trans hkeys)
      refine ⟨ws, rfl, hws, fun k hk v hv => ?_⟩
      have hcanonical := (hlookup k _).mpr ⟨v, hv, rfl⟩
      cases hu : ws.lookup k.name with
      | none => exact .inr ⟨rfl, gone k hk _ hcanonical hu⟩
      | some u => exact .inl ⟨u, rfl, kept k hk _ u hcanonical hu⟩
  · rintro ⟨ws, rfl, hws, h⟩
    refine .object hkeys hws (fun k hk v w hv hw => ?_) (fun k hk v hv hnone => ?_)
    · obtain ⟨old, hold, rfl⟩ := (hlookup k v).mp hv
      rcases h k hk old hold with ⟨u, hu, hloose⟩ | ⟨hnone, -⟩
      · exact Option.some.inj (hu.symm.trans hw) ▸ hloose
      · exact nomatch hnone.symm.trans hw
    · obtain ⟨old, hold, rfl⟩ := (hlookup k v).mp hv
      rcases h k hk old hold with ⟨u, hu, -⟩ | ⟨-, hdefault⟩
      · exact nomatch hnone.symm.trans hu
      · exact hdefault

/-! ## Opening loosened objects -/

/-- The record shows, for each of the keys, a loosened value of less depth than `fuel`, or nothing
where the value was the default. -/
structure Record.Follows (r : Record) (keys : List Key) (fields : List (String × Json))
    (fuel : Nat) : Prop where
  positional : r.positional = false
  field : ∀ k ∈ keys, ∀ v, fields.lookup k.name = some v →
    (∃ w, r.values.lookup k.name = some w.canonical ∧ Loosened k.place v.canonical w ∧
      w.canonical.depth < fuel) ∨
      (r.values.lookup k.name = none ∧ k.default = some v.canonical)

variable {keys : List Key} {fields ws : List (String × Json)} {names tags : List String}
  {w : Json} {fuel : Nat}

theorem Record.Follows.of_lookup {r : Record} (hpositional : r.positional = false)
    (hws : (ws.map (·.1)).Nodup)
    (hr : ∀ k ∈ keys, r.values.lookup k.name = (ws.lookup k.name).map canonical)
    (h : ∀ k ∈ keys, k.Follows fields ws)
    (hfuel : (canonical (.object ws)).depth < fuel + 1) : r.Follows keys fields fuel := by
  refine ⟨hpositional, fun k hk v hv => ?_⟩
  rw [hr k hk]
  rcases h k hk v hv with ⟨u, hu, hloose⟩ | ⟨hnone, hdefault⟩
  · refine .inl ⟨u, by rw [hu, Option.map_some], hloose, ?_⟩
    exact Nat.lt_of_lt_of_le (depth_lt_of_lookup hws hu) (Nat.le_of_lt_succ hfuel)
  · exact .inr ⟨by rw [hnone, Option.map_none], hdefault⟩

/-- **A loosened record opens**, whatever was left out and added. -/
theorem Loosened.open? (kind : RecordKind) (fields : List (String × Json))
    (h : Loosened (.record kind) (canonical (.object fields)) w) (names : List String)
    (hkeys : kind.keys.map (·.name) = names) (hfields : fields.map (·.1) = names)
    (hnodup : names.Nodup) (hfuel : w.canonical.depth < fuel + 1) :
    ∃ r, Record.open? names w.canonical = some r ∧ r.Follows kind.keys fields fuel := by
  obtain ⟨ws, rfl, hws, hfollows⟩ := (Loosened.object_iff rfl (hfields ▸ hnodup)).mp h
  obtain ⟨r, ho, hpositional, hr⟩ := open?_object names (nodup_sortFields_canonicalFields hws)
  rw [← canonical_object] at ho
  refine ⟨r, ho, .of_lookup hpositional hws (fun k hk => ?_) hfollows hfuel⟩
  rw [hr k.name (hkeys ▸ List.mem_map_of_mem hk), lookup_sortFields_canonicalFields hws]

/-- **A loosened tagged record opens** under its tag, whatever was left out and added. -/
theorem Loosened.untag? (kind : TaggedKind) (tag : String) (fields : List (String × Json))
    (h : Loosened (.tagged kind) (canonical (tagged kind.field tag fields)) w) (inside : Bool)
    (tags names : List String) (hmem : tag ∈ tags) (hkeys : kind.keys? tag = some keys)
    (hnames : keys.map (·.name) = names) (hfields : fields.map (·.1) = names)
    (hnodup : (kind.field :: names).Nodup) (hfuel : w.canonical.depth < fuel + 1) :
    ∃ body r, Json.untag? kind.field inside tags w.canonical = some (tag, body) ∧
      Record.open? names body = some r ∧ r.Follows keys fields fuel := by
  have hall : (((kind.field, Json.string tag) :: fields).map (·.1)).Nodup := by
    rwa [List.map_cons, hfields]
  have htagged : (sortFields (canonicalFields ((kind.field, .string tag) :: fields))).lookup
      kind.field = some (.string tag) := by
    rw [lookup_sortFields_canonicalFields hall, List.lookup_cons_self]
    rfl
  have hplace : (Place.tagged kind).keys?
      (sortFields (canonicalFields ((kind.field, .string tag) :: fields))) =
        some (⟨kind.field, .value, none⟩ :: keys) := by
    rw [Place.keys?, htagged]
    simp only [hkeys, Option.map_some]
  obtain ⟨ws, rfl, hws, hfollows⟩ := (Loosened.object_iff hplace hall).mp h
  -- the tag is kept as it is
  have hkept : ws.lookup kind.field = some (.string tag) := by
    rcases hfollows _ List.mem_cons_self (.string tag) List.lookup_cons_self with
      ⟨u, hu, hloose⟩ | ⟨-, hdefault⟩
    · rw [hu, hloose.value_eq, canonical_string]
    · exact nomatch hdefault
  have hbody := nodup_sortFields_canonicalFields hws
  have hrest : (((sortFields (canonicalFields ws)).filter fun f => f.1 != kind.field).map
      (·.1)).Nodup := hbody.sublist (List.filter_sublist.map _)
  have htag : (sortFields (canonicalFields ws)).lookup kind.field = some (.string tag) := by
    rw [lookup_sortFields_canonicalFields hws, hkept, Option.map_some, canonical_string]
  have hu := untag?_object inside hmem hbody htag
  obtain ⟨r, ho, hpositional, hr⟩ := open?_object names hrest
  rw [← canonical_object] at hu
  refine ⟨_, r, hu, ho, .of_lookup hpositional hws (fun k hk => ?_) (fun k hk v hv => ?_) hfuel⟩
  all_goals
    have hname : k.name ∈ names := hnames ▸ List.mem_map_of_mem hk
    have hne : k.name ≠ kind.field := fun heq => (List.nodup_cons.mp hnodup).1 (heq ▸ hname)
  · rw [hr k.name hname, ← lookup_sortFields_canonicalFields hws]
    exact lookup_filter (p := fun name => name != kind.field) (bne_iff_ne.mpr hne)
  · refine hfollows k (List.mem_cons_of_mem _ hk) v ?_
    rw [List.lookup_cons, beq_eq_false_iff_ne.mpr hne, hv]

/-! ## Fields of a loosened object -/

section Fields

variable {α : Type} {r : Record} {decode : Json → Option α} {encode : α → Json} {a : α} {v d : Json}
  {p : Place}

theorem nullable_loosened {o : Option α} (hnull : decode .null = none)
    (hdecode : ∀ a ∈ o, Loosened p (encode a).canonical w → decode w.canonical = some a)
    (h : Loosened p (ofOption encode o).canonical w) :
    Record.nullable decode w.canonical = some o := by
  cases o with
  | none =>
    obtain rfl : w = .null := h.null_eq
    rfl
  | some a =>
    have ha := hdecode a rfl h
    have hw : w.canonical ≠ .null := by
      intro heq
      rw [heq, hnull] at ha
      exact nomatch ha
    rw [Record.nullable_of_ne_null hw, ha, Option.map_some]

/-- A loosened list is read if its members are. -/
theorem list?_loosened {as : List α}
    (hdecode : ∀ a ∈ as, ∀ w, Loosened p (encode a).canonical w → w.canonical.depth < fuel →
      decode w.canonical = some a)
    (h : Loosened (.list p) (canonical (.array (as.map encode))) w)
    (hfuel : w.canonical.depth < fuel) : list? decode w.canonical = some as := by
  rw [canonical_array] at h
  induction as generalizing w with
  | nil =>
    rw [h.nil_eq]
    rfl
  | cons a as ih =>
    obtain ⟨u, us, rfl, hu, hus⟩ := h.cons_inv
    obtain ⟨hhead, htail⟩ := depth_lt_of_cons hfuel
    refine list?_cons (hdecode a List.mem_cons_self u hu hhead) ?_
    exact ih (fun b hb => hdecode b (List.mem_cons_of_mem _ hb)) hus htail

namespace Record.Follows

/-- A key that must be there. -/
theorem required_eq (hr : r.Follows keys fields fuel) (name : String)
    (hkey : keys.find? (·.name == name) = some ⟨name, p, none⟩)
    (hvalue : fields.lookup name = some v)
    (hdecode : ∀ w, Loosened p v.canonical w → w.canonical.depth < fuel →
      decode w.canonical = some a) : r.required name decode = some a := by
  rcases hr.field _ (List.mem_of_find?_eq_some hkey) v hvalue with
    ⟨w, hw, hloose, hdepth⟩ | ⟨-, hdefault⟩
  · rw [required, hw, Option.bind_some, hdecode w hloose hdepth]
  · exact nomatch hdefault

/-- A key that must be there and has no other keys in its value. -/
theorem required_value (hr : r.Follows keys fields fuel) (name : String)
    (hkey : keys.find? (·.name == name) = some ⟨name, .value, none⟩)
    (hvalue : fields.lookup name = some v) (hdecode : decode v.canonical = some a) :
    r.required name decode = some a := by
  refine hr.required_eq name hkey hvalue fun w hw _ => ?_
  rw [hw.value_eq, canonical_canonical, hdecode]

/-- A key with a default. -/
theorem withDefault_eq (hr : r.Follows keys fields fuel) (name : String) (default : α)
    (hkey : keys.find? (·.name == name) = some ⟨name, p, some d⟩)
    (hvalue : fields.lookup name = some v)
    (hdecode : ∀ w, Loosened p v.canonical w → w.canonical.depth < fuel →
      decode w.canonical = some a)
    (hdefault : d = v.canonical → default = a) : r.withDefault name default decode = some a := by
  rcases hr.field _ (List.mem_of_find?_eq_some hkey) v hvalue with
    ⟨w, hw, hloose, hdepth⟩ | ⟨hw, hd⟩
  · rw [withDefault, hw]
    exact hdecode w hloose hdepth
  · rw [withDefault, hw, hdefault (Option.some.inj hd)]

/-- A key with a default that has no other keys in its value; the default is read as what a missing
key stands for. -/
theorem withDefault_value (hr : r.Follows keys fields fuel) (name : String) (default : α)
    (hkey : keys.find? (·.name == name) = some ⟨name, .value, some d⟩)
    (hvalue : fields.lookup name = some v) (hdecode : decode v.canonical = some a)
    (hdefault : decode d = some default) : r.withDefault name default decode = some a := by
  refine hr.withDefault_eq name default hkey hvalue (fun w hw _ => ?_) fun hd => ?_
  · rw [hw.value_eq, canonical_canonical, hdecode]
  · rw [hd, hdecode] at hdefault
    exact (Option.some.inj hdefault).symm

/-- A key whose value may be null, which is its default. -/
theorem omissible_eq (hr : r.Follows keys fields fuel) (name : String) {o : Option α}
    (hkey : keys.find? (·.name == name) = some ⟨name, p, some .null⟩)
    (hvalue : fields.lookup name = some (ofOption encode o))
    (hdecode : ∀ a ∈ o, ∀ w, Loosened p (encode a).canonical w → w.canonical.depth < fuel →
      decode w.canonical = some a)
    (hnull : decode .null = none) (hne : ∀ a ∈ o, (encode a).canonical ≠ .null) :
    r.omissible name decode = some o := by
  refine hr.withDefault_eq name none hkey hvalue (fun w hw hdepth => ?_) fun hd => ?_
  · exact nullable_loosened hnull (fun a ha h => hdecode a ha w h hdepth) hw
  · cases o with
    | none => rfl
    | some a => exact absurd hd.symm (hne a rfl)

/-- A key whose value may be null, which is its default, and has no other keys in it. -/
theorem omissible_value (hr : r.Follows keys fields fuel) (name : String) {o : Option α}
    (hkey : keys.find? (·.name == name) = some ⟨name, .value, some .null⟩)
    (hvalue : fields.lookup name = some (ofOption encode o))
    (hdecode : ∀ a ∈ o, decode (encode a).canonical = some a) (hnull : decode .null = none) :
    r.omissible name decode = some o := by
  refine hr.omissible_eq name hkey hvalue (fun a ha w hw _ => ?_) hnull fun a ha heq => ?_
  · rw [hw.value_eq, canonical_canonical, hdecode a ha]
  · have hsome := hdecode a ha
    rw [heq, hnull] at hsome
    exact nomatch hsome

/-- A key whose value is a list, which is empty by default. -/
theorem list_eq (hr : r.Follows keys fields fuel) (name : String) {as : List α}
    (hkey : keys.find? (·.name == name) = some ⟨name, .list p, some (.array [])⟩)
    (hvalue : fields.lookup name = some (.array (as.map encode)))
    (hdecode : ∀ a ∈ as, ∀ w, Loosened p (encode a).canonical w → decode w.canonical = some a) :
    r.withDefault name [] (list? decode) = some as := by
  refine hr.withDefault_eq name [] hkey hvalue (fun w hw hdepth => ?_) fun hd => ?_
  · exact list?_loosened (fun a ha w hw _ => hdecode a ha w hw) hw hdepth
  · cases as with
    | nil => rfl
    | cons a as => simp at hd

/-- A key whose value may be null, which is its default, of an object. -/
theorem optional_eq (hr : r.Follows keys fields fuel) (name : String) {o : Option α}
    (hkey : keys.find? (·.name == name) = some ⟨name, p, some .null⟩)
    (hvalue : fields.lookup name = some (ofOption encode o))
    (hdecode : ∀ a ∈ o, ∀ w, Loosened p (encode a).canonical w → w.canonical.depth < fuel →
      decode w.canonical = some a)
    (hnull : decode .null = none) (hne : ∀ a ∈ o, (encode a).canonical ≠ .null) :
    r.optional name decode = some o := by
  have homissible := hr.omissible_eq name hkey hvalue hdecode hnull hne
  rw [optional, hr.positional]
  rwa [omissible, withDefault] at homissible

end Record.Follows

end Fields

end Crosstab.Json
