import Crosstab.Proofs.Frame.Reduced
import Crosstab.Proofs.Report.Permuted
import Crosstab.Proofs.Report.SliceGroups

/-!
# Tables whose rows are shuffled

A table is shuffled if it has the rows of another one in some order (`Frame.Shuffled`).  Then the
rows that pass a filter are shuffled too, and the groups by some keys are the same groups in some
order, each with its rows in some order.

An aggregate that does not look at the order of the rows of a group (`Aggregate.Unordered`) has the
same cells for these groups (`Aggregate.eval_shuffled`), so that the grouped table of a shuffled
table is the shuffled grouped table (`Spec.exists_grouped_shuffled`).
-/

namespace Crosstab

namespace Frame

/-- The other table has the rows of this one in some order. -/
def Shuffled (f g : Frame) : Prop :=
  ∃ rows : List Nat, rows.Perm (List.range f.len) ∧ g = f.take rows

/-- Members in another order are members at places in another order. -/
theorem exists_places_of_perm {α : Type} {as bs : List α} (h : bs.Perm as) (d : α) :
    ∃ places : List Nat, places.Perm (List.range as.length) ∧
      bs = places.map fun i => as.getD i d := by
  have hall : List.Forall₂ (fun a i => a = as.getD i d) as (List.range as.length) := by
    rw [← List.forall₂_map_right_iff (R := fun a b => a = b), map_getD_range, List.forall₂_same]
    exact fun _ _ => rfl
  obtain ⟨places, hplaces, hperm⟩ := List.perm_comp_forall₂ h hall
  refine ⟨places, hperm, ?_⟩
  rwa [← List.forall₂_map_right_iff (R := fun a b => a = b), List.forall₂_eq_eq_eq] at hplaces

variable {f g : Frame}

/-- Rows taken in another order are shuffled. -/
theorem shuffled_of_perm (f : Frame) {as bs : List Nat} (h : bs.Perm as) :
    (f.take as).Shuffled (f.take bs) := by
  obtain ⟨places, hperm, rfl⟩ := exists_places_of_perm h 0
  refine ⟨places, hperm, (take_take f ?_).symm⟩
  exact fun j hj => List.mem_range.mp (hperm.mem_iff.mp hj)

namespace Shuffled

theorem sameRows (h : f.Shuffled g) : f.SameRows g := by
  obtain ⟨rows, hrows, rfl⟩ := h
  refine ⟨rows, hrows, ?_, .refl _⟩
  rw [take_len, hrows.length_eq, List.length_range]

theorem wellFormed (hf : f.WellFormed) (h : f.Shuffled g) : g.WellFormed :=
  h.sameRows.wellFormed hf

theorem names_eq (h : f.Shuffled g) : g.names = f.names := by
  obtain ⟨rows, -, rfl⟩ := h
  exact names_take f rows

/-- The rows that pass a filter are shuffled with the table. -/
theorem restrict {f' : Frame} {filter : Option Condition} (hf : f.WellFormed) (h : f.Shuffled g)
    (hpassing : f.restrict filter = .ok f') :
    ∃ g', g.restrict filter = .ok g' ∧ f'.Shuffled g' := by
  obtain ⟨rows, hrows, rfl⟩ := h
  have hlt : ∀ i ∈ rows, i < f.len := fun i hi => List.mem_range.mp (hrows.mem_iff.mp hi)
  have hnodup : rows.Nodup := hrows.nodup_iff.mpr List.nodup_range
  obtain ⟨g', hg'⟩ := exists_restrict_take hf hpassing hlt
  refine ⟨g', hg', ?_⟩
  obtain ⟨passing, hselects, rfl⟩ := restrict_eq_ok hf hpassing
  obtain ⟨inner, hinner, rfl⟩ := restrict_eq_ok (wellFormed_take hf rows) hg'
  rw [take_take f hinner.lt_len]
  refine shuffled_of_perm f ((List.perm_ext_iff_of_nodup ?_ (hselects.sorted.imp ne_of_lt)).mpr ?_)
  · refine List.Nodup.map_on ?_ (hinner.sorted.imp ne_of_lt)
    intro j hj k hk heq
    have hj' := getElem?_eq_getD (hinner.lt_len j hj) 0
    have hk' := getElem?_eq_getD (hinner.lt_len k hk) 0
    rw [heq] at hj'
    exact (List.getElem?_inj (hinner.lt_len j hj) hnodup).mp (hj'.trans hk'.symm)
  · intro i
    rw [hselects.mem_iff, List.mem_map]
    constructor
    · rintro ⟨j, hj, rfl⟩
      have hget := getElem?_eq_getD (hinner.lt_len j hj) 0
      have hpass := ((hinner.mem_iff j).mp hj).2
      rw [row_take hget] at hpass
      exact ⟨hlt _ (List.mem_of_getElem? hget), hpass⟩
    · rintro ⟨hi, hpass⟩
      obtain ⟨j, hj⟩ := List.mem_iff_getElem?.mp (hrows.mem_iff.mpr (List.mem_range.mpr hi))
      have hlen := (List.getElem?_eq_some_iff.mp hj).1
      refine ⟨j, (hinner.mem_iff j).mpr ⟨hlen, ?_⟩, ?_⟩
      · rwa [row_take hj]
      · rw [List.getD_eq_getElem?_getD, hj, Option.getD_some]

/-- A shuffled table has the same tuples in some order. -/
theorem tuples_perm (hf : f.WellFormed) (h : f.Shuffled g) {keys : List String}
    (hkeys : ∀ name ∈ keys, name ∈ f.names) : (g.tuples keys).Perm (f.tuples keys) := by
  obtain ⟨place, hplace⟩ := h.sameRows.exists_places hf
  exact (hplace.tuples_perm hkeys).symm

end Shuffled

/-- The rows of a group in a shuffled table are those of the group in the table, shuffled. -/
theorem map_rowsWith_perm (f : Frame) {rows : List Nat} (hrows : rows.Perm (List.range f.len))
    (keys : List String) (key : List Cell) :
    (((f.take rows).rowsWith keys key).map fun j => rows.getD j 0).Perm (f.rowsWith keys key) := by
  rw [map_rowsWith_take]
  exact hrows.filter _

end Frame

/-! ## Measures -/

namespace Aggregate

/-- The aggregate makes the same of the rows of the groups in any order. -/
def Unordered (a : Aggregate) (f : Frame) (groups : List (List Nat)) : Prop :=
  match a with
  | countRows => True
  | reduce r e => ∀ cells, e.evaluate f = .ok cells →
      ∀ rows ∈ groups, r.Unordered (rows.map fun i => cells.getD i .null)
  | ratio _ _ _ => False

/-- The cells of groups in a shuffled table are those of the groups in the table, in the order of
the groups. -/
theorem eval_shuffled {a : Aggregate} {f : Frame} {keys : List String} {rows places : List Nat}
    {cells : List Cell} (hf : f.WellFormed) (hrows : rows.Perm (List.range f.len))
    (hplaces : ∀ k ∈ places, k < (f.tuples keys).length)
    (htuples : (f.take rows).tuples keys = places.map fun k => (f.tuples keys).getD k [])
    (ha : a.Unordered f ((f.tuples keys).map (f.rowsWith keys)))
    (h : a.eval f ((f.tuples keys).map (f.rowsWith keys)) = .ok cells) :
    a.eval (f.take rows) (((f.take rows).tuples keys).map ((f.take rows).rowsWith keys)) =
      .ok (places.map fun k => cells.getD k .null) := by
  have hkey : ∀ k ∈ places, (f.tuples keys).getD k [] ∈ f.tuples keys := fun k hk =>
    List.mem_of_getElem? (Frame.getElem?_eq_getD (hplaces k hk) [])
  cases a with
  | reduce r e =>
    obtain ⟨values, he, hcells⟩ := bind_eq_ok_iff.mp h
    have hlt : ∀ i ∈ rows, i < f.len := fun i hi => List.mem_range.mp (hrows.mem_iff.mp hi)
    refine bind_eq_ok_iff.mpr ⟨_, Expr.evaluate_take hf he hlt, ?_⟩
    rw [List.mapM_map] at hcells ⊢
    rw [← mapM_map_getD hcells hplaces [] .null, htuples]
    refine mapM_congr ?_
    intro key hmem
    obtain ⟨k, hk, rfl⟩ := List.mem_map.mp hmem
    -- the cells of the group, read off the shuffled table and off the table
    have hgroup : (((f.take rows).rowsWith keys ((f.tuples keys).getD k [])).map fun j =>
        (rows.map fun i => values.getD i .null).getD j .null) =
        (((f.take rows).rowsWith keys ((f.tuples keys).getD k [])).map fun j =>
          rows.getD j 0).map fun i => values.getD i .null := by
      rw [List.map_map]
      refine List.map_congr_left ?_
      intro j hj
      have hj' : j < rows.length := (Frame.mem_rowsWith.mp hj).1
      simp [List.getD_eq_getElem?_getD, hj']
    have hperm := (f.map_rowsWith_perm hrows keys ((f.tuples keys).getD k [])).map fun i =>
      values.getD i .null
    rw [Function.comp_apply, Function.comp_apply, hgroup]
    exact (Reduction.apply_eq_of_perm
      (ha values he _ (List.mem_map_of_mem (hkey k hk))) hperm.symm).symm
  | countRows =>
    obtain rfl := Except.ok.inj h
    rw [eval, htuples, List.map_map, List.map_map]
    refine congrArg Except.ok (List.map_congr_left ?_)
    intro k hk
    have hlen := (f.map_rowsWith_perm hrows keys ((f.tuples keys).getD k [])).length_eq
    rw [List.length_map] at hlen
    have hcell : (((f.tuples keys).map (f.rowsWith keys)).map fun rows =>
        Reduction.countCell rows.length).getD k .null =
          Reduction.countCell (f.rowsWith keys ((f.tuples keys).getD k [])).length := by
      simp [List.getD_eq_getElem?_getD, hplaces k hk]
    rw [hcell, ← hlen]
    rfl
  | ratio n d fill => exact ha.elim

end Aggregate

/-! ## The grouped table -/

/-- The columns of keys are those of the keys of the groups. -/
theorem keyColumns_congr (keys : List String) {groups groups' : List Frame.Group}
    (h : groups.map (·.1) = groups'.map (·.1)) :
    keyColumns keys groups = keyColumns keys groups' := by
  have hcells : ∀ (i : Nat) (gs : List Frame.Group),
      (gs.map fun g => g.1.getD i .null) = (gs.map (·.1)).map fun key => key.getD i .null := by
    intro i gs
    rw [List.map_map]
    rfl
  simp only [keyColumns, hcells, h]

theorem Frame.map_fst_tupleGroups (f : Frame) (keys : List String) :
    (f.tupleGroups keys).map (·.1) = f.tuples keys := by
  rw [tupleGroups, List.map_map]
  exact List.map_id _

theorem Frame.map_snd_tupleGroups (f : Frame) (keys : List String) :
    (f.tupleGroups keys).map (·.2) = (f.tuples keys).map (f.rowsWith keys) := by
  rw [tupleGroups, List.map_map]
  rfl

namespace Spec

variable {s : Spec} {f g t : Frame} {keys : List String} {measures : List Column}

/-- The groups of a shuffled table are assembled to the shuffled table of the groups. -/
theorem Assembles.exists_shuffled (h : s.Assembles keys f t measures) (hf : f.WellFormed)
    (hg : f.Shuffled g) (hnames : (keys ++ s.plannedMetrics).Nodup)
    (hkeys : ∀ name ∈ keys, name ∈ f.names)
    (hunordered : ∀ m ∈ s.plannedMeasures,
      m.aggregate.Unordered f ((f.tupleGroups keys).map (·.2))) :
    ∃ measures' u, s.measureColumns g (g.tupleGroups keys) = .ok measures' ∧
      (keyColumns keys (g.tupleGroups keys) ++ measures').foldlM Frame.insert
        (Frame.withLen (g.tupleGroups keys).length) = .ok u ∧ t.Shuffled u := by
  obtain ⟨places, hplaces, htuples⟩ := Frame.exists_places_of_perm (hg.tuples_perm hf hkeys) []
  have hlt : ∀ k ∈ places, k < (f.tuples keys).length := fun k hk =>
    List.mem_range.mp (hplaces.mem_iff.mp hk)
  obtain ⟨rows, hrows, rfl⟩ := hg
  -- the measures, group by group
  have hmeasures : s.measureColumns (f.take rows) ((f.take rows).tupleGroups keys) =
      .ok (measures.map (·.take places)) := by
    have hcolumns := h.measures_eq
    rw [measureColumns_eq] at hcolumns ⊢
    refine mapM_eq_ok_map_of ?_ hcolumns
    intro m hm c hc
    obtain ⟨hname, hcells⟩ := Measure.column_eq_ok hc
    have hm' := hunordered m hm
    rw [Frame.map_snd_tupleGroups] at hcells hm'
    have heval := Aggregate.eval_shuffled hf hrows hlt htuples hm' hcells
    rw [← Frame.map_snd_tupleGroups] at heval
    exact bind_eq_ok_iff.mpr ⟨_, heval, by rw [Column.take, hname]; rfl⟩
  obtain ⟨u, hu, -, hcolumns, hlen⟩ := exists_table hnames hmeasures
  refine ⟨_, u, hmeasures, hu, places, ?_, ?_⟩
  · rw [h.len_eq, Frame.tupleGroups, List.length_map]
    exact hplaces
  · -- the keys, in the order of the groups
    have hkeyColumns : keyColumns keys ((f.take rows).tupleGroups keys) =
        (keyColumns keys (f.tupleGroups keys)).map (·.take places) := by
      rw [keyColumns_take]
      refine keyColumns_congr keys ?_
      rw [Frame.map_fst_tupleGroups, htuples, List.map_map]
      refine List.map_congr_left ?_
      intro k _
      rw [← Frame.map_fst_tupleGroups]
      exact List.getD_map (f.tupleGroups keys) ([], []) fun g : Frame.Group => g.1
    have hcount : u.len = places.length := by
      rw [hlen, Frame.tupleGroups, List.length_map, htuples, List.length_map]
    have htaken : u.columns = (t.take places).columns := by
      rw [hcolumns, hkeyColumns, ← List.map_append, ← h.columns_eq]
      rfl
    obtain ⟨columns, len⟩ := u
    obtain rfl : columns = (t.take places).columns := htaken
    obtain rfl : len = places.length := hcount
    rfl

/-- **The grouped table of a shuffled table.**  Where no measure looks at the order of the rows of a
group, it is the shuffled grouped table. -/
theorem exists_grouped_shuffled {ds ds' : Dataset} {p : Plan} (hf : f.WellFormed)
    (hframe : ds.frame = .ok f) (hframe' : ds'.frame = .ok g) (hfg : f.Shuffled g)
    (hnames : (p.groupKeys ++ s.plannedMetrics).Nodup)
    (hunordered : ∀ passing, f.restrict s.filter = .ok passing → ∀ m ∈ s.plannedMeasures,
      m.aggregate.Unordered passing ((passing.tupleGroups p.groupKeys).map (·.2)))
    (h : s.grouped ds p = .ok t) : ∃ u, s.grouped ds' p = .ok u ∧ t.Shuffled u := by
  obtain ⟨f₀, passing, measures, t₀, hframe₀, hpassing, hmem, hassembles, ht⟩ :=
    exists_assembles_of_grouped hnames h
  obtain rfl := Except.ok.inj (hframe.symm.trans hframe₀)
  have hwf := Frame.wellFormed_restrict hf hpassing
  obtain ⟨passing', hpassing', hshuffled⟩ := hfg.restrict hf hpassing
  obtain ⟨measures', u₀, hmeasures', hu₀, hshuffled₀⟩ :=
    hassembles.exists_shuffled hwf hshuffled hnames hmem (hunordered passing hpassing)
  obtain ⟨u, hu, hshuffled'⟩ := hshuffled₀.restrict hassembles.wellFormed ht
  have hmem' : ∀ name ∈ p.groupKeys, name ∈ passing'.names := by
    rw [hshuffled.names_eq]
    exact hmem
  exact ⟨u, grouped_eq_ok_iff.mpr ⟨g, passing', passing'.tupleGroups p.groupKeys, measures', u₀,
    hframe', hpassing', Frame.groups_eq_ok hmem', hmeasures', hu₀, hu⟩, hshuffled'⟩

end Spec

end Crosstab
