import Crosstab.Json.Record
import Crosstab.Proofs.Json.Canonical

/-!
# Objects that are opened

An object whose names differ opens as a record of the declared fields, wherever they stand in it and
whatever else it holds (`open?_object`), and one with a tag splits into the tag and the rest
(`untag?_object`).  The canonical order moves the fields and keeps their values
(`lookup_sortFields_canonicalFields`).  They nest less deep than the object (`depth_lt_of_lookup`),
so reading them with less fuel is enough.
-/

namespace Crosstab.Json

variable {α : Type} {fields : List (String × Json)} {names tags : List String} {field tag : String}

/-! ## Looking up in any order -/

theorem lookup_eq_some_iff_mem (h : (fields.map (·.1)).Nodup) {name : String} {value : Json} :
    fields.lookup name = some value ↔ (name, value) ∈ fields := by
  induction fields with
  | nil => simp
  | cons f rest ih =>
    obtain ⟨hf, hrest⟩ := List.nodup_cons.mp h
    rw [List.lookup_cons]
    by_cases heq : name = f.1
    · subst heq
      have hnot : (f.1, value) ∉ rest := fun hmem => hf (List.mem_map.mpr ⟨_, hmem, rfl⟩)
      simp [hnot, Prod.ext_iff, eq_comm]
    · have hbeq : (name == f.1) = false := by simpa using heq
      rw [hbeq, ih hrest]
      simp [heq, Prod.ext_iff]

theorem lookup_perm {others : List (String × Json)} (h : fields.Perm others)
    (hnodup : (fields.map (·.1)).Nodup) (name : String) :
    fields.lookup name = others.lookup name := by
  have hothers : (others.map (·.1)).Nodup := (h.map _).nodup_iff.mp hnodup
  refine Option.ext ?_
  intro value
  rw [lookup_eq_some_iff_mem hnodup, lookup_eq_some_iff_mem hothers, h.mem_iff]

theorem lookup_canonicalFields (fields : List (String × Json)) (name : String) :
    (canonicalFields fields).lookup name = (fields.lookup name).map canonical := by
  induction fields with
  | nil => rfl
  | cons f rest ih =>
    rw [canonicalFields, List.lookup_cons, List.lookup_cons, ih]
    cases name == f.1 <;> rfl

theorem map_fst_canonicalFields (fields : List (String × Json)) :
    (canonicalFields fields).map (·.1) = fields.map (·.1) := by
  rw [canonicalFields_eq_map, List.map_map]
  rfl

theorem lookup_filter {p : String → Bool} {name : String} (hname : p name = true) :
    (fields.filter fun f => p f.1).lookup name = fields.lookup name := by
  induction fields with
  | nil => rfl
  | cons f rest ih =>
    by_cases hf : p f.1 = true
    · rw [List.filter_cons, if_pos hf, List.lookup_cons, List.lookup_cons, ih]
    · have hne : (name == f.1) = false := by
        rw [beq_eq_false_iff_ne]
        rintro rfl
        exact hf hname
      rw [List.filter_cons, if_neg hf, List.lookup_cons, hne, ih]

theorem filter_name_eq (hnodup : (fields.map (·.1)).Nodup) {name : String} {value : Json}
    (hvalue : fields.lookup name = some value) :
    (fields.filter fun f => f.1 == name) = [(name, value)] := by
  induction fields with
  | nil => exact nomatch hvalue
  | cons f rest ih =>
    obtain ⟨hf, hrest⟩ := List.nodup_cons.mp hnodup
    rw [List.lookup_cons] at hvalue
    by_cases heq : name = f.1
    · subst heq
      rw [BEq.rfl] at hvalue
      have hothers : (rest.filter fun g => g.1 == f.1) = [] := by
        refine List.filter_eq_nil_iff.mpr ?_
        intro g hg hname
        exact hf (List.mem_map.mpr ⟨g, hg, eq_of_beq hname⟩)
      rw [List.filter_cons_of_pos (by simp), hothers, ← Option.some.inj hvalue]
    · rw [beq_eq_false_iff_ne.mpr heq] at hvalue
      have hneg : ¬ ((f.1 == name) = true) := fun h => heq (eq_of_beq h).symm
      rw [List.filter_cons, if_neg hneg, ih hrest hvalue]

/-! ## Canonical objects -/

theorem sortFields_canonicalFields_perm (h : (fields.map (·.1)).Nodup) :
    (sortFields (canonicalFields fields)).Perm (canonicalFields fields) := by
  refine sortFields_perm ?_
  rwa [map_fst_canonicalFields]

theorem nodup_sortFields_canonicalFields (h : (fields.map (·.1)).Nodup) :
    ((sortFields (canonicalFields fields)).map (·.1)).Nodup := by
  have hperm := (sortFields_canonicalFields_perm h).map (·.1)
  rw [map_fst_canonicalFields] at hperm
  exact hperm.nodup_iff.mpr h

theorem lookup_sortFields_canonicalFields (h : (fields.map (·.1)).Nodup) (name : String) :
    (sortFields (canonicalFields fields)).lookup name = (fields.lookup name).map canonical := by
  rw [lookup_perm (sortFields_canonicalFields_perm h) (nodup_sortFields_canonicalFields h),
    lookup_canonicalFields]

theorem depth_lt_of_lookup (hnodup : (fields.map (·.1)).Nodup) {name : String} {value : Json}
    (hvalue : fields.lookup name = some value) :
    value.canonical.depth < (canonical (.object fields)).depth := by
  have hmem : (name, value.canonical) ∈ sortFields (canonicalFields fields) := by
    rw [← lookup_eq_some_iff_mem (nodup_sortFields_canonicalFields hnodup),
      lookup_sortFields_canonicalFields hnodup, hvalue, Option.map_some]
  rw [canonical_object, depth]
  exact Nat.lt_succ_of_le (depth_le_depthOfFields hmem)

/-! ## Opening records -/

/-- **An object opens** as a record of its declared fields. -/
theorem open?_object (names : List String) (hnodup : (fields.map (·.1)).Nodup) :
    ∃ r, Record.open? names (.object fields) = some r ∧ r.positional = false ∧
      ∀ name ∈ names, r.values.lookup name = fields.lookup name := by
  have hdeclared : ((fields.filter fun f => names.contains f.1).map (·.1)).Nodup :=
    hnodup.sublist (List.filter_sublist.map _)
  refine ⟨⟨fields.filter fun f => names.contains f.1, false⟩, ?_, rfl, fun name hname => ?_⟩
  · simp only [Record.open?, if_pos hdeclared]
  · exact lookup_filter (List.contains_iff_mem.mpr hname)

/-- **An object with a tag** is split into the tag and the other fields. -/
theorem untag?_object (inside : Bool) (htag : tag ∈ tags) (hnodup : (fields.map (·.1)).Nodup)
    (hfield : fields.lookup field = some (.string tag)) :
    untag? field inside tags (.object fields) =
      some (tag, .object (fields.filter fun f => f.1 != field)) := by
  simp only [untag?, filter_name_eq hnodup hfield, tagOf?, List.contains_iff_mem.mpr htag, if_true,
    Option.map_some]

/-! ## Lists -/

theorem depth_lt_of_cons {v : Json} {vs : List Json} {fuel : Nat}
    (h : (canonical (.array (v :: vs))).depth < fuel) :
    v.canonical.depth < fuel ∧ (canonical (.array vs)).depth < fuel := by
  rw [canonical_array, List.map_cons, depth, depthOfItems] at h
  rw [canonical_array, depth]
  omega

theorem list?_cons {decode : Json → Option α} {v : Json} {vs : List Json} {a : α} {as : List α}
    (hv : decode v.canonical = some a) (hvs : list? decode (canonical (.array vs)) = some as) :
    list? decode (canonical (.array (v :: vs))) = some (a :: as) := by
  rw [canonical_array, list?] at hvs
  rw [canonical_array, List.map_cons, list?, List.mapM_cons, hv, hvs]
  rfl

/-- A written list is read back if its members are. -/
theorem list?_canonical {encode : α → Json} {decode : Json → Option α} {as : List α}
    (h : ∀ a ∈ as, decode (encode a).canonical = some a) :
    list? decode (canonical (.array (as.map encode))) = some as := by
  induction as with
  | nil => rfl
  | cons a as ih =>
    exact list?_cons (h a List.mem_cons_self) (ih fun b hb => h b (List.mem_cons_of_mem _ hb))

/-! ## Fields of a record -/

theorem Record.nullable_of_ne_null {decode : Json → Option α} {v : Json} (h : v ≠ .null) :
    Record.nullable decode v = (decode v).map some := by
  cases v with
  | null => exact absurd rfl h
  | _ => rfl

end Crosstab.Json
