import Crosstab.Expr.Aggregate
import Crosstab.Proofs.Expr.Part
import Mathlib.Data.List.GetD

/-!
# Aggregates group by group

An aggregate evaluates its scalars once, over the whole table, and reduces the cells at the
positions of each group.  The cell of a group is nevertheless that of the group alone: it is what
the aggregate gives for a table of only the rows of the group, taken as one group
(`Aggregate.eval_group`).  Some of the groups have the cells that they have among all
(`Aggregate.eval_map_getD`), also over a table of only some rows (`Aggregate.eval_take`).
-/

namespace Crosstab.Aggregate

theorem length_of_reduceGroups {f : Frame} {groups : List (List Nat)} {r : Reduction} {e : Expr}
    {cells : List Cell} (h : reduceGroups f groups r e = .ok cells) :
    cells.length = groups.length := by
  obtain ⟨_, _, h⟩ := bind_eq_ok_iff.mp h
  exact length_of_mapM_eq_ok h

/-- There is a cell for each group. -/
theorem length_of_eval {f : Frame} {groups : List (List Nat)} {a : Aggregate} {cells : List Cell}
    (h : a.eval f groups = .ok cells) : cells.length = groups.length := by
  cases a with
  | reduce r e => exact length_of_reduceGroups h
  | countRows =>
    obtain rfl := Except.ok.inj h
    rw [List.length_map]
  | ratio n d fill =>
    obtain ⟨ns, hn, h⟩ := bind_eq_ok_iff.mp h
    obtain ⟨ds, hd, h⟩ := bind_eq_ok_iff.mp h
    rw [length_of_mapM_eq_ok h, List.length_zip, length_of_reduceGroups hn,
      length_of_reduceGroups hd, Nat.min_self]

theorem reduceGroups_group {f : Frame} (hf : f.WellFormed) {groups : List (List Nat)}
    {r : Reduction} {e : Expr} {cells : List Cell} (h : reduceGroups f groups r e = .ok cells)
    {k : Nat} {c : Cell} (hc : cells[k]? = some c) {rows : List Nat}
    (hk : groups[k]? = some rows) (hrows : ∀ i ∈ rows, i < f.len) :
    reduceGroups (f.take rows) [List.range rows.length] r e = .ok [c] := by
  obtain ⟨values, he, h⟩ := bind_eq_ok_iff.mp h
  obtain ⟨rows', hrows', hcell⟩ := getElem?_of_mapM_eq_ok h hc
  obtain rfl : rows = rows' := by simpa [hk] using hrows'
  refine bind_eq_ok_iff.mpr ⟨_, Expr.evaluate_take hf he hrows, ?_⟩
  have hall := Frame.map_getD_range (rows.map fun i => values.getD i .null) Cell.null
  rw [List.length_map] at hall
  refine mapM_cons_eq_ok_iff.mpr ⟨c, [], ?_, rfl, rfl⟩
  rw [hall, hcell]

/-- **The cell of a group is that of its rows alone.** -/
theorem eval_group {f : Frame} (hf : f.WellFormed) {groups : List (List Nat)} {a : Aggregate}
    {cells : List Cell} (h : a.eval f groups = .ok cells) {k : Nat} {c : Cell}
    (hc : cells[k]? = some c) {rows : List Nat} (hk : groups[k]? = some rows)
    (hrows : ∀ i ∈ rows, i < f.len) :
    a.eval (f.take rows) [List.range rows.length] = .ok [c] := by
  cases a with
  | reduce r e => exact reduceGroups_group hf h hc hk hrows
  | countRows =>
    obtain rfl := Except.ok.inj h
    simp only [List.getElem?_map, hk, Option.map_some, Option.some.injEq] at hc
    simp [eval, hc]
  | ratio n d fill =>
    obtain ⟨ns, hn, h⟩ := bind_eq_ok_iff.mp h
    obtain ⟨ds, hd, h⟩ := bind_eq_ok_iff.mp h
    obtain ⟨⟨x, y⟩, hxy, hdiv⟩ := getElem?_of_mapM_eq_ok h hc
    obtain ⟨hx, hy⟩ := List.getElem?_zip_eq_some.mp hxy
    refine bind_eq_ok_iff.mpr ⟨[x], reduceGroups_group hf hn hx hk hrows, ?_⟩
    refine bind_eq_ok_iff.mpr ⟨[y], reduceGroups_group hf hd hy hk hrows, ?_⟩
    exact mapM_cons_eq_ok_iff.mpr ⟨c, [], hdiv, rfl, rfl⟩

/-! ## Some groups, and groups of some rows -/

theorem reduceGroups_map_getD {f : Frame} {groups : List (List Nat)} {r : Reduction} {e : Expr}
    {cells : List Cell} (h : reduceGroups f groups r e = .ok cells) {places : List Nat}
    (hplaces : ∀ k ∈ places, k < groups.length) :
    reduceGroups f (places.map fun k => groups.getD k []) r e =
      .ok (places.map fun k => cells.getD k .null) := by
  obtain ⟨values, he, h⟩ := bind_eq_ok_iff.mp h
  exact bind_eq_ok_iff.mpr ⟨values, he, mapM_map_getD h hplaces [] .null⟩

theorem map_zip_getD {places : List Nat} {as bs : List Cell} (ha : ∀ k ∈ places, k < as.length)
    (hb : ∀ k ∈ places, k < bs.length) :
    (places.map fun k => as.getD k .null).zip (places.map fun k => bs.getD k .null) =
      places.map fun k => (as.zip bs).getD k (.null, .null) := by
  rw [List.zip_map']
  refine List.map_congr_left ?_
  intro k hk
  have hlen : k < (as.zip bs).length := by
    rw [List.length_zip]
    exact Nat.lt_min.mpr ⟨ha k hk, hb k hk⟩
  rw [List.getD_eq_getElem _ _ hlen, List.getElem_zip, List.getD_eq_getElem _ _ (ha k hk),
    List.getD_eq_getElem _ _ (hb k hk)]

/-- The cells of some of the groups are the cells at their places. -/
theorem eval_map_getD {f : Frame} {groups : List (List Nat)} {a : Aggregate} {cells : List Cell}
    (h : a.eval f groups = .ok cells) {places : List Nat}
    (hplaces : ∀ k ∈ places, k < groups.length) :
    a.eval f (places.map fun k => groups.getD k []) =
      .ok (places.map fun k => cells.getD k .null) := by
  cases a with
  | reduce r e => exact reduceGroups_map_getD h hplaces
  | countRows =>
    obtain rfl := Except.ok.inj h
    rw [eval, List.map_map]
    refine congrArg Except.ok (List.map_congr_left ?_)
    intro k hk
    simp [List.getD_eq_getElem?_getD, hplaces k hk]
  | ratio n d fill =>
    obtain ⟨ns, ds, hn, hd, h⟩ := bind_both_eq_ok_iff.mp h
    have hn' : ∀ k ∈ places, k < ns.length := by
      intro k hk
      rw [length_of_reduceGroups hn]
      exact hplaces k hk
    have hd' : ∀ k ∈ places, k < ds.length := by
      intro k hk
      rw [length_of_reduceGroups hd]
      exact hplaces k hk
    refine bind_both_eq_ok_iff.mpr
      ⟨_, _, reduceGroups_map_getD hn hplaces, reduceGroups_map_getD hd hplaces, ?_⟩
    rw [map_zip_getD hn' hd']
    refine mapM_map_getD h ?_ _ _
    intro k hk
    rw [List.length_zip]
    exact Nat.lt_min.mpr ⟨hn' k hk, hd' k hk⟩

theorem reduceGroups_take {f : Frame} (hf : f.WellFormed) {rows : List Nat}
    (hrows : ∀ i ∈ rows, i < f.len) {groups : List (List Nat)}
    (hgroups : ∀ g ∈ groups, ∀ j ∈ g, j < rows.length) {r : Reduction} {e : Expr}
    {cells : List Cell}
    (h : reduceGroups f (groups.map fun g => g.map fun j => rows.getD j 0) r e = .ok cells) :
    reduceGroups (f.take rows) groups r e = .ok cells := by
  obtain ⟨values, he, h⟩ := bind_eq_ok_iff.mp h
  refine bind_eq_ok_iff.mpr ⟨_, Expr.evaluate_take hf he hrows, ?_⟩
  rw [List.mapM_map] at h
  rw [← h]
  refine mapM_congr ?_
  intro g hg
  have hcells : (g.map fun j => (rows.map fun i => values.getD i .null).getD j .null) =
      (g.map fun j => rows.getD j 0).map fun i => values.getD i .null := by
    rw [List.map_map]
    refine List.map_congr_left ?_
    intro j hj
    simp [List.getD_eq_getElem?_getD, hgroups g hg j hj]
  rw [hcells]
  rfl

/-- The cells of groups of some rows are those of the groups in the whole table. -/
theorem eval_take {f : Frame} (hf : f.WellFormed) {rows : List Nat}
    (hrows : ∀ i ∈ rows, i < f.len) {groups : List (List Nat)}
    (hgroups : ∀ g ∈ groups, ∀ j ∈ g, j < rows.length) {a : Aggregate} {cells : List Cell}
    (h : a.eval f (groups.map fun g => g.map fun j => rows.getD j 0) = .ok cells) :
    a.eval (f.take rows) groups = .ok cells := by
  cases a with
  | reduce r e => exact reduceGroups_take hf hrows hgroups h
  | countRows =>
    obtain rfl := Except.ok.inj h
    rw [eval, List.map_map]
    refine congrArg Except.ok (List.map_congr_left ?_)
    intro g _
    rw [Function.comp_apply, List.length_map]
  | ratio n d fill =>
    obtain ⟨ns, ds, hn, hd, h⟩ := bind_both_eq_ok_iff.mp h
    exact bind_both_eq_ok_iff.mpr ⟨ns, ds, reduceGroups_take hf hrows hgroups hn,
      reduceGroups_take hf hrows hgroups hd, h⟩

end Crosstab.Aggregate
