import Crosstab.Proofs.Cell.Compared
import Crosstab.Proofs.Report.Pivoted

/-!
# Where all sorts agree

The order of cells is the same from either side (`Cell.order_swap`), but among cells of several kinds
it may go round in a circle.  A report sorts its slices and rows by their keys, and its rows by
measures if it is asked to.  If the cells of each of these columns are totally ordered
(`Frame.Ordered`), so are the tuples of keys and the rows, since these are compared column by column.
Then every sort gives the report that merging gives (`Frame.Ordered.pivotWith_eq_pivot`).

Columns whose cells are of one kind are ordered (`Frame.orderedOn_of_oneKind`).
-/

namespace Crosstab

/-! ## Total orders of the members of a list -/

namespace TotalOn

variable {α β : Type} {cmp cmp' : α → α → Ordering} {as bs : List α}

theorem mono (h : TotalOn cmp as) (hsub : bs ⊆ as) : TotalOn cmp bs where
  swap a ha b hb := h.swap a (hsub ha) b (hsub hb)
  trans a ha b hb c hc := h.trans a (hsub ha) b (hsub hb) c (hsub hc)

theorem transCmp (h : TotalOn cmp as) : Std.TransCmp fun a b : {a // a ∈ as} => cmp a b where
  eq_swap {a b} := h.swap a a.2 b b.2
  isLE_trans {a b c} := h.trans a a.2 b b.2 c c.2

theorem of_transCmp (h : Std.TransCmp fun a b : {a // a ∈ as} => cmp a b) : TotalOn cmp as where
  swap a ha b hb := h.eq_swap (a := ⟨a, ha⟩) (b := ⟨b, hb⟩)
  trans a ha b hb c hc := h.isLE_trans (a := ⟨a, ha⟩) (b := ⟨b, hb⟩) (c := ⟨c, hc⟩)

/-- One comparison after another one. -/
theorem lex (h : TotalOn cmp as) (h' : TotalOn cmp' as) :
    TotalOn (fun a b => (cmp a b).then (cmp' a b)) as := by
  have hfirst := h.transCmp
  have hsecond := h'.transCmp
  refine of_transCmp ?_
  exact inferInstanceAs (Std.TransCmp (compareLex (fun a b : {a // a ∈ as} => cmp a b)
    fun a b => cmp' a b))

/-- Views are ordered as what they are views of. -/
theorem map_iff {view : β → α} {bs : List β} :
    TotalOn cmp (bs.map view) ↔ TotalOn (fun a b => cmp (view a) (view b)) bs := by
  constructor
  · intro h
    have hview : ∀ b ∈ bs, view b ∈ bs.map view := fun b hb => List.mem_map_of_mem hb
    exact ⟨fun a ha b hb => h.swap _ (hview a ha) _ (hview b hb),
      fun a ha b hb c hc => h.trans _ (hview a ha) _ (hview b hb) _ (hview c hc)⟩
  · intro h
    constructor
    · simp only [List.forall_mem_map]
      exact h.swap
    · simp only [List.forall_mem_map]
      exact h.trans

theorem of_eq (h : ∀ a ∈ as, ∀ b ∈ as, cmp a b = .eq) : TotalOn cmp as where
  swap a ha b hb := by rw [h a ha b hb, h b hb a ha]; rfl
  trans a ha b hb c hc _ _ := by rw [h a ha c hc]; rfl

end TotalOn

/-! ## Rows -/

/-- The cells of a column are ordered in either direction, with the missing ones last. -/
theorem totalOn_cellOrder {cells : List (Option Cell)}
    (h : TotalOn Cell.order (cells.filterMap id)) (ascending : Bool) :
    TotalOn (Table.cellOrder ascending) cells := by
  have hmem : ∀ {c : Cell}, some c ∈ cells → c ∈ cells.filterMap id := fun hc =>
    List.mem_filterMap.mpr ⟨_, hc, rfl⟩
  constructor
  · intro a ha b hb
    cases a with
    | none => cases b <;> rfl
    | some a =>
      cases b with
      | none => rfl
      | some b =>
        cases ascending
        · exact h.swap b (hmem hb) a (hmem ha)
        · exact h.swap a (hmem ha) b (hmem hb)
  · intro a ha b hb c hc hab hbc
    cases c with
    | none => cases a <;> rfl
    | some c =>
      cases b with
      | none => exact absurd hbc nofun
      | some b =>
        cases a with
        | none => exact absurd hab nofun
        | some a =>
          cases ascending
          · exact h.trans c (hmem hc) b (hmem hb) a (hmem ha) hbc hab
          · exact h.trans a (hmem ha) b (hmem hb) c (hmem hc) hab hbc

/-- Rows are ordered if the columns are that they are sorted by. -/
theorem totalOn_rowOrder {targets : List (Nat × Bool)} {rows : List Row}
    (h : ∀ target ∈ targets, TotalOn Cell.order (rows.filterMap fun r => r.cellAt? target.1)) :
    TotalOn (Table.rowOrder targets) rows := by
  induction targets with
  | nil => exact .of_eq fun _ _ _ _ => rfl
  | cons target targets ih =>
    obtain ⟨i, ascending⟩ := target
    obtain ⟨hfirst, hrest⟩ := List.forall_mem_cons.mp h
    have hcells : TotalOn Cell.order ((rows.map fun r => r.cellAt? i).filterMap id) := by
      rwa [List.filterMap_map]
    have hcolumn := TotalOn.map_iff.mp (totalOn_cellOrder hcells ascending)
    exact hcolumn.lex (ih hrest)

/-! ## Tables -/

namespace Frame

variable {ε : Type} {f : Frame} {p : Plan} {ls : List Label} {s : Spec} {names : List String}

/-- The cells of a column are totally ordered. -/
def OrderedOn (f : Frame) (name : String) : Prop :=
  TotalOn Cell.order ((List.range f.len).map (f.cellAt name))

/-- A report of the table sorts nothing but what is totally ordered: its keys and, if it sorts by
measures, the cells of the measures. -/
structure Ordered (f : Frame) (p : Plan) (s : Spec) : Prop where
  slicers : ∀ name ∈ p.slicerKeys, f.OrderedOn name
  rows : ∀ name ∈ p.rowKeys, f.OrderedOn name
  metrics : s.sortBy ≠ [] → ∀ name ∈ p.metricNames, f.OrderedOn name

/-- Cells of one kind are ordered. -/
theorem orderedOn_of_oneKind {name : String}
    (h : ∀ i < f.len, ∀ j < f.len, (f.cellAt name i).kindName = (f.cellAt name j).kindName) :
    f.OrderedOn name := by
  have horder : ∀ i < f.len, ∀ j < f.len, (f.cellAt name i).order (f.cellAt name j) =
      (f.cellAt name i).kindOrder (f.cellAt name j) := fun i hi j hj =>
    Cell.order_eq_kindOrder (h i hi j hj)
  refine TotalOn.map_iff.mpr ⟨fun i _ j _ => Cell.order_swap _ _, ?_⟩
  intro i hi j hj k hk
  rw [List.mem_range] at hi hj hk
  rw [horder i hi j hj, horder j hj k hk, horder i hi k hk]
  exact Std.TransCmp.isLE_trans

/-- Tuples of ordered cells are ordered. -/
theorem totalOn_tuple (h : ∀ name ∈ names, f.OrderedOn name) :
    TotalOn (fun i j => keyOrder (f.tuple names i) (f.tuple names j)) (List.range f.len) := by
  induction names with
  | nil => exact .of_eq fun _ _ _ _ => rfl
  | cons name names ih =>
    obtain ⟨hname, hnames⟩ := List.forall_mem_cons.mp h
    have hkey : ∀ i j, keyOrder (f.tuple (name :: names) i) (f.tuple (name :: names) j) =
        ((f.cellAt name i).order (f.cellAt name j)).then
          (keyOrder (f.tuple names i) (f.tuple names j)) := fun i j => List.compareLex_cons_cons
    simp only [hkey]
    exact (TotalOn.map_iff.mp hname).lex (ih hnames)

theorem totalOn_keyOrder (h : ∀ name ∈ names, f.OrderedOn name) {keys : List (List Cell)}
    (hkeys : ∀ key ∈ keys, names = [] ∧ key = [] ∨ ∃ i < f.len, f.tuple names i = key) :
    TotalOn keyOrder keys := by
  by_cases hnone : names = []
  · have hnil : ∀ key ∈ keys, key = [] := by
      intro key hkey
      rcases hkeys key hkey with ⟨-, rfl⟩ | ⟨i, -, rfl⟩
      · rfl
      · rw [hnone]
        rfl
    refine .of_eq fun a ha b hb => ?_
    rw [hnil a ha, hnil b hb]
    rfl
  · refine (TotalOn.map_iff.mpr (totalOn_tuple h)).mono ?_
    intro key hkey
    obtain ⟨i, hi, rfl⟩ := (hkeys key hkey).resolve_left fun hnil => hnone hnil.1
    exact List.mem_map_of_mem (List.mem_range.mpr hi)

/-- The cells that a table shows in a column are cells of its measure. -/
theorem totalOn_column (hmetrics : ∀ name ∈ p.metricNames, f.OrderedOn name)
    (hls : ∀ l ∈ ls, l.1 ∈ p.metricNames) (slice : List Cell) (i : Nat) :
    TotalOn Cell.order ((f.tableOf p ls slice).rows.filterMap fun r => r.cellAt? i) := by
  have hcell : ∀ c ∈ (f.tableOf p ls slice).rows.filterMap fun r => r.cellAt? i,
      ∃ l, ls[i]? = some l ∧ ∃ j < f.len, f.cellAt l.1 j = c := by
    intro c hc
    obtain ⟨r, hr, hcell⟩ := List.mem_filterMap.mp hc
    obtain ⟨row, -, rfl⟩ := List.mem_map.mp hr
    rw [Row.cellAt?, List.getElem?_map] at hcell
    obtain ⟨l, hl, hentry⟩ := Option.map_eq_some_iff.mp (Option.join_eq_some_iff.mp hcell)
    obtain ⟨-, j, hj, -, heq⟩ := of_entry?_eq_some hentry
    exact ⟨l, hl, j, hj, heq⟩
  cases hl : ls[i]? with
  | none =>
    have hempty : (f.tableOf p ls slice).rows.filterMap (fun r => r.cellAt? i) = [] := by
      refine List.eq_nil_iff_forall_not_mem.mpr fun c hc => ?_
      obtain ⟨l, hl', -⟩ := hcell c hc
      rw [hl] at hl'
      cases hl'
    rw [hempty]
    exact .of_eq fun a ha => absurd ha List.not_mem_nil
  | some l =>
    refine (hmetrics l.1 (hls l (List.mem_of_getElem? hl))).mono ?_
    intro c hc
    obtain ⟨l', hl', j, hj, rfl⟩ := hcell c hc
    obtain rfl := Option.some.inj (hl.symm.trans hl')
    exact List.mem_map_of_mem (List.mem_range.mpr hj)

/-- Where everything that is sorted is ordered, any sort puts it in order. -/
theorem Ordered.sortsAll (h : f.Ordered p s) (σ : Sorter ε) (hls : ∀ l ∈ ls, l.1 ∈ p.metricNames) :
    SortsAll σ f p ls s where
  slices := by
    refine σ.stable (TotalOn.map_iff.mpr ?_)
    exact totalOn_keyOrder h.slicers fun key hkey => mem_tuples_iff.mp hkey
  rows slice := by
    refine σ.stable (TotalOn.map_iff.mpr (totalOn_keyOrder h.rows fun key hkey => ?_))
    exact ((Selects.rowsWith f p.slicerKeys slice).mem_tuples_iff.mp hkey).imp_right
      fun ⟨i, hi, _, heq⟩ => ⟨i, hi, heq⟩
  columns slice := by
    have htotal : TotalOn (Table.rowOrder ((f.tableOf p ls slice).targets s.sortBy))
        (f.tableOf p ls slice).rows := by
      refine totalOn_rowOrder fun target htarget => ?_
      refine totalOn_column (h.metrics ?_) hls slice target.1
      rintro hnone
      rw [hnone] at htarget
      exact absurd htarget List.not_mem_nil
    rw [Table.finishWith, σ.stable htotal]
    rfl

/-- **Where everything that is sorted is ordered, all sorts give one report.** -/
theorem Ordered.pivotWith_eq_pivot (h : f.Ordered p s) (σ : Sorter ε)
    (hkeys : ∀ name ∈ p.groupKeys, name ∈ f.names)
    (hmetrics : ∀ name ∈ p.metricNames, name ∈ f.names)
    (houtputs : OutputColumn.all f (p.metricNames.map f.metricColumn) p.columnKeys =
      .ok (ls.map f.output)) (hls : ∀ l ∈ ls, l.1 ∈ p.metricNames) :
    f.pivotWith σ p s = (f.pivot p s).mapError .inr := by
  rw [pivotWith_eq hkeys hmetrics houtputs, pivot_eq_ok_of_outputs s hkeys hmetrics houtputs,
    (h.sortsAll σ hls).reportWith_eq]
  rfl

end Frame

end Crosstab
