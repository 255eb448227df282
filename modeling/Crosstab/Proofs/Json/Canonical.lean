import Crosstab.Json.Basic
import Mathlib.Data.List.Perm.Basic

/-!
# Canonical order

Sorting the fields of objects by name gives a normal form: it is sorted (`sorted_sortFields`), it
loses no field where the names differ (`sortFields_perm`), and it has nothing left to do the second
time (`canonical_canonical`).
-/

namespace Crosstab.Json

variable {name : String} {value : Json} {fields : List (String × Json)}

/-! ## Sorted fields -/

/-- The fields are sorted by name and have different names. -/
def Sorted (fields : List (String × Json)) : Prop := fields.Pairwise fun f g => f.1 < g.1

theorem lt_of_not_lt_of_ne {s t : String} (h : ¬ s < t) (hne : s ≠ t) : t < s := by
  rcases String.le_total s t with hle | hle
  · exact absurd (String.le_antisymm hle (String.not_lt.mp h)) hne
  · by_cases hlt : t < s
    · exact hlt
    · exact absurd (String.le_antisymm (String.not_lt.mp hlt) hle) hne

theorem eq_or_mem_of_mem_insertField {f : String × Json} (h : f ∈ insertField name value fields) :
    f = (name, value) ∨ f ∈ fields := by
  induction fields with
  | nil => exact .inl (by simpa [insertField] using h)
  | cons g rest ih =>
    unfold insertField at h
    split at h
    · simpa using h
    · split at h
      · rcases List.mem_cons.mp h with h | h
        · exact .inl h
        · exact .inr (List.mem_cons_of_mem _ h)
      · rcases List.mem_cons.mp h with rfl | h
        · exact .inr List.mem_cons_self
        · exact (ih h).imp_right (List.mem_cons_of_mem _)

theorem sorted_insertField (h : Sorted fields) : Sorted (insertField name value fields) := by
  induction fields with
  | nil => simp [insertField, Sorted]
  | cons g rest ih =>
    obtain ⟨hg, hrest⟩ := List.pairwise_cons.mp h
    unfold insertField
    split
    · next hlt =>
      refine List.pairwise_cons.mpr ⟨fun f hf => ?_, h⟩
      rcases List.mem_cons.mp hf with rfl | hf
      · exact hlt
      · exact String.lt_trans hlt (hg f hf)
    · split
      · next heq =>
        refine List.pairwise_cons.mpr ⟨fun f hf => ?_, hrest⟩
        rw [heq]
        exact hg f hf
      · next hlt hne =>
        refine List.pairwise_cons.mpr ⟨fun f hf => ?_, ih hrest⟩
        rcases eq_or_mem_of_mem_insertField hf with rfl | hf
        · exact lt_of_not_lt_of_ne hlt hne
        · exact hg f hf

/-- A name after all others comes last. -/
theorem insertField_of_lt (h : ∀ f ∈ fields, f.1 < name) :
    insertField name value fields = fields ++ [(name, value)] := by
  induction fields with
  | nil => rfl
  | cons g rest ih =>
    have hg : g.1 < name := h g List.mem_cons_self
    have hne : name ≠ g.1 := (String.ne_of_lt hg).symm
    rw [insertField, if_neg (String.lt_asymm hg), if_neg hne,
      ih fun f hf => h f (List.mem_cons_of_mem _ hf), List.cons_append]

/-- A new name replaces no field. -/
theorem insertField_perm (h : name ∉ fields.map (·.1)) :
    (insertField name value fields).Perm ((name, value) :: fields) := by
  induction fields with
  | nil => exact List.Perm.refl _
  | cons g rest ih =>
    obtain ⟨hne, hrest⟩ := List.ne_and_not_mem_of_not_mem_cons h
    unfold insertField
    split
    · exact List.Perm.refl _
    · exact ((ih hrest).cons g).trans (List.Perm.swap _ _ _)

/-! ## Sorting -/

theorem foldl_insertField_sorted {sorted : List (String × Json)} (h : Sorted sorted) :
    Sorted (fields.foldl (fun sorted f => insertField f.1 f.2 sorted) sorted) := by
  induction fields generalizing sorted with
  | nil => exact h
  | cons f rest ih => exact ih (sorted_insertField h)

theorem sorted_sortFields (fields : List (String × Json)) : Sorted (sortFields fields) :=
  foldl_insertField_sorted List.Pairwise.nil

theorem mem_of_mem_foldl_insertField {sorted : List (String × Json)} {f : String × Json}
    (h : f ∈ fields.foldl (fun sorted f => insertField f.1 f.2 sorted) sorted) :
    f ∈ fields ∨ f ∈ sorted := by
  induction fields generalizing sorted with
  | nil => exact .inr h
  | cons g rest ih =>
    rcases ih h with h | h
    · exact .inl (List.mem_cons_of_mem _ h)
    · rcases eq_or_mem_of_mem_insertField h with rfl | h
      · exact .inl List.mem_cons_self
      · exact .inr h

theorem mem_of_mem_sortFields {f : String × Json} (h : f ∈ sortFields fields) : f ∈ fields :=
  (mem_of_mem_foldl_insertField h).resolve_right (List.not_mem_nil)

theorem foldl_insertField_of_sorted {before : List (String × Json)}
    (h : Sorted (before ++ fields)) :
    fields.foldl (fun sorted f => insertField f.1 f.2 sorted) before = before ++ fields := by
  induction fields generalizing before with
  | nil => simp
  | cons f rest ih =>
    have hlast : insertField f.1 f.2 before = before ++ [f] := by
      refine insertField_of_lt ?_
      intro g hg
      exact (List.pairwise_append.mp h).2.2 g hg f List.mem_cons_self
    rw [List.foldl_cons, hlast, ih (by simpa using h), List.append_assoc, List.singleton_append]

/-- Sorting leaves sorted fields as they are. -/
theorem sortFields_of_sorted (h : Sorted fields) : sortFields fields = fields :=
  foldl_insertField_of_sorted h

theorem foldl_insertField_perm {sorted : List (String × Json)}
    (h : ((fields ++ sorted).map (·.1)).Nodup) :
    (fields.foldl (fun sorted f => insertField f.1 f.2 sorted) sorted).Perm (fields ++ sorted) := by
  induction fields generalizing sorted with
  | nil => exact List.Perm.refl _
  | cons f rest ih =>
    have hmiddle : (rest ++ f :: sorted).Perm (f :: rest ++ sorted) := List.perm_middle
    have hnodup : ((rest ++ f :: sorted).map (·.1)).Nodup := (hmiddle.map _).nodup_iff.mpr h
    have hnew : f.1 ∉ sorted.map (·.1) := by
      rw [List.map_append, List.map_cons] at hnodup
      exact (List.nodup_cons.mp (List.nodup_append.mp hnodup).2.1).1
    have hinsert : (insertField f.1 f.2 sorted).Perm (f :: sorted) := insertField_perm hnew
    rw [List.foldl_cons]
    refine (ih ?_).trans ((hinsert.append_left rest).trans hmiddle)
    exact ((hinsert.append_left rest).map _).nodup_iff.mpr hnodup

/-- Sorting keeps all fields where the names differ. -/
theorem sortFields_perm (h : (fields.map (·.1)).Nodup) : (sortFields fields).Perm fields := by
  have hperm : (sortFields fields).Perm (fields ++ []) := foldl_insertField_perm (by simpa using h)
  rwa [List.append_nil] at hperm

/-! ## Canonical values -/

@[simp] theorem canonical_null : canonical .null = .null := rfl

@[simp] theorem canonical_bool (b : Bool) : canonical (.bool b) = .bool b := rfl

@[simp] theorem canonical_number (n : Number) : canonical (.number n) = .number n := rfl

@[simp] theorem canonical_string (s : String) : canonical (.string s) = .string s := rfl

theorem canonicalItems_eq_map (items : List Json) : canonicalItems items = items.map canonical := by
  induction items with
  | nil => rfl
  | cons item rest ih => rw [canonicalItems, ih, List.map_cons]

@[simp] theorem canonical_array (items : List Json) :
    canonical (.array items) = .array (items.map canonical) := by
  rw [canonical, canonicalItems_eq_map]

theorem canonical_object (fields : List (String × Json)) :
    canonical (.object fields) = .object (sortFields (canonicalFields fields)) := by
  rw [canonical]

theorem canonicalFields_eq_map (fields : List (String × Json)) :
    canonicalFields fields = fields.map fun f => (f.1, f.2.canonical) := by
  induction fields with
  | nil => rfl
  | cons f rest ih => rw [canonicalFields, ih, List.map_cons]

theorem canonicalFields_of_canonical (h : ∀ f ∈ fields, f.2.canonical = f.2) :
    canonicalFields fields = fields := by
  rw [canonicalFields_eq_map]
  exact (List.map_congr_left fun f hf => by rw [h f hf, id]).trans (List.map_id _)

mutual

/-- A canonical value is its own canonical form. -/
theorem canonical_canonical : ∀ v : Json, v.canonical.canonical = v.canonical
  | .null => rfl
  | .bool _ => rfl
  | .number _ => rfl
  | .string _ => rfl
  | .array items => by
    rw [canonical, canonical, canonicalItems_canonicalItems items]
  | .object fields => by
    have hfixed : ∀ f ∈ sortFields (canonicalFields fields), f.2.canonical = f.2 :=
      fun f hf => canonical_of_mem_canonicalFields fields f (mem_of_mem_sortFields hf)
    rw [canonical, canonical, canonicalFields_of_canonical hfixed,
      sortFields_of_sorted (sorted_sortFields _)]

theorem canonicalItems_canonicalItems :
    ∀ items : List Json, canonicalItems (canonicalItems items) = canonicalItems items
  | [] => rfl
  | item :: rest => by
    rw [canonicalItems, canonicalItems, canonical_canonical item,
      canonicalItems_canonicalItems rest]

theorem canonical_of_mem_canonicalFields :
    ∀ (fields : List (String × Json)), ∀ f ∈ canonicalFields fields, f.2.canonical = f.2
  | [], f, hf => absurd hf List.not_mem_nil
  | (name, value) :: rest, f, hf => by
    rcases List.mem_cons.mp hf with rfl | hf
    · exact canonical_canonical value
    · exact canonical_of_mem_canonicalFields rest f hf

end

/-! ## Depth -/

theorem depth_le_depthOfFields {f : String × Json} (h : f ∈ fields) :
    f.2.depth ≤ depthOfFields fields := by
  induction fields with
  | nil => exact absurd h List.not_mem_nil
  | cons other rest ih =>
    rw [depthOfFields]
    rcases List.mem_cons.mp h with rfl | h
    · exact Nat.le_max_left _ _
    · exact Nat.le_trans (ih h) (Nat.le_max_right _ _)

end Crosstab.Json
