import Crosstab.Proofs.Frame.Groups

/-!
# Tables that agree on names

Two tables `AgreeOn` some names if they have one length and, for each of these names, the same
column or none.  They have the same rows, tuples and groups as far as these names go, and rows that
are taken from both agree again.
-/

namespace Crosstab.Frame

/-- The tables have one length, and the same columns for the names that satisfy `N`. -/
structure AgreeOn (N : String → Prop) (f g : Frame) : Prop where
  len_eq : g.len = f.len
  column?_eq : ∀ name, N name → g.column? name = f.column? name

namespace AgreeOn

variable {N : String → Prop} {f g : Frame}

theorem mono {M : String → Prop} (h : f.AgreeOn N g) (hM : ∀ name, M name → N name) :
    f.AgreeOn M g where
  len_eq := h.len_eq
  column?_eq name hname := h.column?_eq name (hM name hname)

theorem take (h : f.AgreeOn N g) (rows : List Nat) : (f.take rows).AgreeOn N (g.take rows) where
  len_eq := rfl
  column?_eq := by
    intro name hname
    rw [column?_take, column?_take, h.column?_eq name hname]

theorem require_eq (h : f.AgreeOn N g) {name : String} (hname : N name) :
    g.require name = f.require name := by
  rw [require, require, h.column?_eq name hname]

theorem cellAt_eq (h : f.AgreeOn N g) {name : String} (hname : N name) (i : Nat) :
    g.cellAt name i = f.cellAt name i := by
  rw [cellAt, cellAt, h.column?_eq name hname]

theorem tuple_eq (h : f.AgreeOn N g) {keys : List String} (hkeys : ∀ name ∈ keys, N name)
    (i : Nat) : g.tuple keys i = f.tuple keys i :=
  List.map_congr_left fun name hname => h.cellAt_eq (hkeys name hname) i

theorem rowsWith_eq (h : f.AgreeOn N g) {keys : List String} (hkeys : ∀ name ∈ keys, N name)
    (key : List Cell) : g.rowsWith keys key = f.rowsWith keys key := by
  rw [rowsWith, rowsWith, h.len_eq]
  refine List.filter_congr ?_
  intro i _
  rw [h.tuple_eq hkeys]

theorem tuples_eq (h : f.AgreeOn N g) {keys : List String} (hkeys : ∀ name ∈ keys, N name) :
    g.tuples keys = f.tuples keys := by
  cases keys with
  | nil => rfl
  | cons k rest =>
    have hmap : (List.range g.len).map (g.tuple (k :: rest)) =
        (List.range f.len).map (f.tuple (k :: rest)) := by
      rw [h.len_eq]
      exact List.map_congr_left fun i _ => h.tuple_eq hkeys i
    exact congrArg List.eraseDups hmap

/-- Rows are grouped alike, or cannot be grouped for the same reason. -/
theorem groups_eq (h : f.AgreeOn N g) {keys : List String} (hkeys : ∀ name ∈ keys, N name) :
    g.groups keys = f.groups keys := by
  cases keys with
  | nil => rw [groups, groups, h.len_eq]
  | cons k rest =>
    have hrequire : (k :: rest).mapM g.require = (k :: rest).mapM f.require :=
      mapM_congr fun name hname => h.require_eq (hkeys name hname)
    simp only [groups, hrequire, h.len_eq]

theorem mem_names_iff (h : f.AgreeOn N g) {name : String} (hname : N name) :
    name ∈ g.names ↔ name ∈ f.names := by
  rw [← hasColumn_iff, ← hasColumn_iff, hasColumn, hasColumn, h.column?_eq name hname]

end AgreeOn

/-- Tables that differ by some columns agree on all names but those of the columns. -/
theorem agreeOn_of_columns {f g : Frame} {first rest last : List Column} (hlen : g.len = f.len)
    (hf : f.columns = first ++ rest ++ last) (hg : g.columns = first ++ last) :
    f.AgreeOn (· ∉ rest.map (·.name)) g where
  len_eq := hlen
  column?_eq := by
    intro name hname
    have hrest : rest.find? (·.name == name) = none := by
      rw [List.find?_eq_none]
      intro c hc heq
      exact hname (List.mem_map.mpr ⟨c, hc, beq_iff_eq.mp heq⟩)
    rw [column?, column?, hf, hg, List.find?_append, List.find?_append, List.find?_append, hrest,
      Option.or_none]

end Crosstab.Frame
