import Crosstab.Proofs.Cell.Order
import Crosstab.Proofs.Report.Pivoted

/-!
# Pivoting does not look at the order of rows

Two tables have the same rows if one is the other with its rows and its columns in some order
(`Frame.SameRows`).  Where no two rows have one tuple of keys and each key column holds cells of one
kind, both are pivoted to the same report (`pivot_eq_of_sameRows`): tables and rows are sorted by
keys and columns by names, which leaves nothing open, and a cell is found by its keys.
-/

namespace Crosstab

/-- Keys whose cells have the same kinds are sorted alike. -/
theorem sortKeys_eq_of_perm {keys keys' : List (List Cell)} (h : keys.Perm keys')
    (hkinds : ∀ a ∈ keys, ∀ b ∈ keys, a.map Cell.kindName = b.map Cell.kindName) :
    sortKeys keys = sortKeys keys' :=
  mergeSort_eq_of_perm h (fun a ha b hb => keyOrder_eq (hkinds a ha b hb))
    fun _ _ _ _ => Std.LawfulEqCmp.eq_of_compare

/-- Labels of different names are sorted alike. -/
theorem sortLabels_eq_of_perm {ls ls' : List Label} (h : ls.Perm ls')
    (hnames : ∀ l ∈ ls, ∀ l' ∈ ls, labelName l = labelName l' → l = l') :
    sortLabels ls = sortLabels ls' := by
  have hcmp : ∀ l ∈ ls, ∀ l' ∈ ls,
      Cell.textOrder (labelName l) (labelName l') = compareOn labelName l l' :=
    fun _ _ _ _ => rfl
  refine mergeSort_eq_of_perm h hcmp ?_
  intro l hl l' hl' heq
  exact hnames l hl l' hl' (Std.LawfulEqCmp.eq_of_compare heq)

namespace Frame

/-- The other table has the rows of this one in some order, and its columns in some order. -/
def SameRows (f g : Frame) : Prop :=
  ∃ rows : List Nat, rows.Perm (List.range f.len) ∧ g.len = f.len ∧
    g.columns.Perm (f.take rows).columns

variable {f g : Frame} {p : Plan}

theorem SameRows.names_perm (h : f.SameRows g) : g.names.Perm f.names := by
  obtain ⟨rows, _, _, hcolumns⟩ := h
  have hnames := hcolumns.map (·.name)
  rwa [← names_take f rows]

theorem SameRows.wellFormed (hf : f.WellFormed) (h : f.SameRows g) : g.WellFormed := by
  refine ⟨h.names_perm.nodup_iff.mpr hf.nodup_names, ?_⟩
  obtain ⟨rows, hrows, hlen, hcolumns⟩ := h
  intro c hc
  rw [(wellFormed_take hf rows).length_values c (hcolumns.mem_iff.mp hc), take_len,
    hrows.length_eq, List.length_range, hlen]

/-- Each row of the other table has a place of its own in this one, and holds the cells there. -/
structure Places (f g : Frame) (place : Nat → Nat) : Prop where
  lt_len : ∀ j < g.len, place j < f.len
  inj : ∀ j < g.len, ∀ k < g.len, place j = place k → j = k
  surj : ∀ i < f.len, ∃ j < g.len, place j = i
  cellAt_eq : ∀ name ∈ f.names, ∀ j < g.len, g.cellAt name j = f.cellAt name (place j)

theorem SameRows.exists_places (hf : f.WellFormed) (h : f.SameRows g) :
    ∃ place, f.Places g place := by
  have hg := h.wellFormed hf
  obtain ⟨rows, hrows, hlen, hcolumns⟩ := h
  have hlen' : g.len = rows.length := by rw [hlen, hrows.length_eq, List.length_range]
  have hget : ∀ j < g.len, rows[j]? = some (rows.getD j 0) := fun j hj =>
    getElem?_eq_getD (hlen' ▸ hj) 0
  refine ⟨fun j => rows.getD j 0, ?_, ?_, ?_, ?_⟩
  · intro j hj
    exact List.mem_range.mp (hrows.mem_iff.mp (List.mem_of_getElem? (hget j hj)))
  · intro j hj k hk heq
    have hnodup : rows.Nodup := hrows.nodup_iff.mpr List.nodup_range
    have hsame := (hget j hj).trans ((congrArg some heq).trans (hget k hk).symm)
    exact (List.getElem?_inj (hlen' ▸ hj) hnodup).mp hsame
  · intro i hi
    obtain ⟨j, hj⟩ := List.mem_iff_getElem?.mp (hrows.mem_iff.mpr (List.mem_range.mpr hi))
    refine ⟨j, hlen' ▸ (List.getElem?_eq_some_iff.mp hj).1, ?_⟩
    show rows.getD j 0 = i
    rw [List.getD_eq_getElem?_getD, hj, Option.getD_some]
  · intro name hname j hj
    rw [← names_take f rows] at hname
    obtain ⟨c, hc, rfl⟩ := List.mem_map.mp hname
    have hcell : g.cellAt c.name j = (f.take rows).cellAt c.name j := by
      rw [cellAt_of_mem hg (hcolumns.mem_iff.mpr hc), cellAt_of_mem (wellFormed_take hf rows) hc]
    rw [hcell, cellAt_take (hget j hj)]

namespace Places

variable {place : Nat → Nat} (h : f.Places g place)

include h

theorem tuple_eq {keys : List String} (hkeys : ∀ name ∈ keys, name ∈ f.names) {j : Nat}
    (hj : j < g.len) : g.tuple keys j = f.tuple keys (place j) :=
  List.map_congr_left fun name hname => h.cellAt_eq name (hkeys name hname) j hj

/-- There is a row of one table if there is one of the other. -/
theorem exists_iff {P Q : Nat → Prop} (hPQ : ∀ j < g.len, P (place j) ↔ Q j) :
    (∃ i < f.len, P i) ↔ ∃ j < g.len, Q j := by
  constructor
  · rintro ⟨i, hi, hP⟩
    obtain ⟨j, hj, rfl⟩ := h.surj i hi
    exact ⟨j, hj, (hPQ j hj).mp hP⟩
  · rintro ⟨j, hj, hQ⟩
    exact ⟨place j, h.lt_len j hj, (hPQ j hj).mpr hQ⟩

theorem tuples_perm {keys : List String} (hkeys : ∀ name ∈ keys, name ∈ f.names) :
    (f.tuples keys).Perm (g.tuples keys) := by
  refine (List.perm_ext_iff_of_nodup (nodup_tuples f keys) (nodup_tuples g keys)).mpr ?_
  intro key
  rw [mem_tuples_iff, mem_tuples_iff]
  exact or_congr_right (h.exists_iff fun j hj => by rw [h.tuple_eq hkeys hj])

/-- A slice has the same rows in both tables. -/
theorem tuples_slice_perm {keys slicers : List String} (hkeys : ∀ name ∈ keys, name ∈ f.names)
    (hslicers : ∀ name ∈ slicers, name ∈ f.names) (slice : List Cell) :
    ((f.take (f.rowsWith slicers slice)).tuples keys).Perm
      ((g.take (g.rowsWith slicers slice)).tuples keys) := by
  refine (List.perm_ext_iff_of_nodup (nodup_tuples _ keys) (nodup_tuples _ keys)).mpr ?_
  intro key
  rw [(Selects.rowsWith f slicers slice).mem_tuples_iff,
    (Selects.rowsWith g slicers slice).mem_tuples_iff]
  exact or_congr_right (h.exists_iff fun j hj => by
    rw [h.tuple_eq hkeys hj, h.tuple_eq hslicers hj])

theorem distinctOn {keys : List String} (hkeys : ∀ name ∈ keys, name ∈ f.names)
    (hdistinct : f.DistinctOn keys) : g.DistinctOn keys := by
  intro i hi j hj heq
  rw [h.tuple_eq hkeys hi, h.tuple_eq hkeys hj] at heq
  exact h.inj i hi j hj (hdistinct _ (h.lt_len i hi) _ (h.lt_len j hj) heq)

/-- The other table is pivoted as this one is. -/
theorem pivotable (hf : f.Pivotable p) (hnames : g.names.Perm f.names) : g.Pivotable p where
  mem_keys name hname := hnames.mem_iff.mpr (hf.mem_keys name hname)
  mem_metrics name hname := hnames.mem_iff.mpr (hf.mem_metrics name hname)
  nodup_metrics := hf.nodup_metrics
  distinct := h.distinctOn hf.mem_keys hf.distinct
  names_differ m hm m' hm' key hkey key' hkey' :=
    have hperm := h.tuples_perm hf.mem_columns
    hf.names_differ m hm m' hm' key (hperm.mem_iff.mpr hkey) key' (hperm.mem_iff.mpr hkey')

theorem entry?_eq (hf : f.Pivotable p) (slice row : List Cell) {l : Label}
    (hl : l.1 ∈ p.metricNames) : f.entry? p slice row l = g.entry? p slice row l := by
  refine Option.ext ?_
  intro v
  rw [entry?_eq_some_iff hf.distinct,
    entry?_eq_some_iff (h.distinctOn hf.mem_keys hf.distinct)]
  refine and_congr_right fun _ => h.exists_iff ?_
  intro j hj
  rw [hasKeys_iff, hasKeys_iff, h.tuple_eq hf.mem_rows hj, h.tuple_eq hf.mem_columns hj,
    h.tuple_eq hf.mem_slicers hj, h.cellAt_eq l.1 (hf.mem_metrics l.1 hl) j hj]

theorem labels_eq (hf : f.Pivotable p) : f.labels p = g.labels p := by
  unfold labels
  split
  · rfl
  · have hperm : (p.metricNames ×ˢ f.tuples p.columnKeys).Perm
        (p.metricNames ×ˢ g.tuples p.columnKeys) := by
      refine (List.perm_ext_iff_of_nodup (hf.nodup_metrics.product (nodup_tuples f _))
        (hf.nodup_metrics.product (nodup_tuples g _))).mpr ?_
      rintro ⟨m, key⟩
      rw [List.mem_product, List.mem_product, (h.tuples_perm hf.mem_columns).mem_iff]
    refine sortLabels_eq_of_perm hperm ?_
    rintro ⟨m, key⟩ hl ⟨m', key'⟩ hl' heq
    obtain ⟨hm, hkey⟩ := List.mem_product.mp hl
    obtain ⟨hm', hkey'⟩ := List.mem_product.mp hl'
    obtain ⟨rfl, rfl⟩ := hf.names_differ m hm m' hm' key hkey key' hkey' heq
    rfl

end Places

/-! ## Kinds of keys -/

/-- The cells of each key column are of one kind. -/
def OneKind (f : Frame) (keys : List String) : Prop :=
  ∀ name ∈ keys, ∀ i < f.len, ∀ j < f.len,
    (f.cellAt name i).kindName = (f.cellAt name j).kindName

instance (f : Frame) (keys : List String) : Decidable (f.OneKind keys) :=
  inferInstanceAs (Decidable (∀ name ∈ keys, ∀ i < f.len, ∀ j < f.len,
    (f.cellAt name i).kindName = (f.cellAt name j).kindName))

namespace OneKind

variable {keys more : List String}

theorem mono (h : f.OneKind keys) (hsub : more ⊆ keys) : f.OneKind more := fun name hname =>
  h name (hsub hname)

theorem map_kindName_eq (h : f.OneKind keys) {a b : List Cell}
    (ha : keys = [] ∧ a = [] ∨ ∃ i < f.len, f.tuple keys i = a)
    (hb : keys = [] ∧ b = [] ∨ ∃ j < f.len, f.tuple keys j = b) :
    a.map Cell.kindName = b.map Cell.kindName := by
  rcases ha with ⟨rfl, rfl⟩ | ⟨i, hi, rfl⟩
  · rcases hb with ⟨_, rfl⟩ | ⟨j, _, rfl⟩
    · rfl
    · rfl
  · rcases hb with ⟨rfl, rfl⟩ | ⟨j, hj, rfl⟩
    · rfl
    · rw [tuple, tuple, List.map_map, List.map_map]
      exact List.map_congr_left fun name hname => h name hname i hi j hj

/-- Tuples of columns of one kind are sorted alike. -/
theorem sortKeys_eq (h : f.OneKind keys) {tuples tuples' : List (List Cell)}
    (hperm : tuples.Perm tuples')
    (htuples : ∀ a ∈ tuples, keys = [] ∧ a = [] ∨ ∃ i < f.len, f.tuple keys i = a) :
    sortKeys tuples = sortKeys tuples' :=
  sortKeys_eq_of_perm hperm fun a ha b hb => h.map_kindName_eq (htuples a ha) (htuples b hb)

end OneKind

/-! ## Reports -/

/-- Tables of the same rows show the same slices. -/
theorem Places.pivoted_eq {place : Nat → Nat} (h : f.Places g place) (hf : f.Pivotable p)
    (hkinds : f.OneKind p.groupKeys) (slice : List Cell) :
    f.pivoted p slice = g.pivoted p slice := by
  have hrows : ∀ a ∈ (f.take (f.rowsWith p.slicerKeys slice)).tuples p.rowKeys,
      p.rowKeys = [] ∧ a = [] ∨ ∃ i < f.len, f.tuple p.rowKeys i = a := by
    intro a ha
    have ha := (Selects.rowsWith f p.slicerKeys slice).mem_tuples_iff.mp ha
    exact ha.imp_right fun ⟨i, hi, _, heq⟩ => ⟨i, hi, heq⟩
  have hsorted := (hkinds.mono (Plan.rowKeys_subset p)).sortKeys_eq
    (h.tuples_slice_perm hf.mem_rows hf.mem_slicers slice) hrows
  rw [pivoted, pivoted, ← hsorted, ← h.labels_eq hf]
  congr 1
  refine List.map_congr_left fun row _ => ?_
  congr 1
  refine List.map_congr_left fun l hl => ?_
  exact h.entry?_eq hf slice row (mem_labels.mp hl).1

/-- **Pivoting does not look at the order of rows.** -/
theorem pivot_eq_of_sameRows (hf : f.WellFormed) (hp : f.Pivotable p)
    (hkinds : f.OneKind p.groupKeys) (h : f.SameRows g) (s : Spec) : g.pivot p s = f.pivot p s := by
  obtain ⟨place, hplace⟩ := h.exists_places hf
  have hsorted := (hkinds.mono (Plan.slicerKeys_subset p)).sortKeys_eq
    (hplace.tuples_perm hp.mem_slicers) fun a ha => mem_tuples_iff.mp ha
  rw [hp.pivot_eq s, (hplace.pivotable hp h.names_perm).pivot_eq s, ← hsorted]
  simp only [hplace.pivoted_eq hp hkinds]

end Frame

end Crosstab
