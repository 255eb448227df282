import Crosstab.Frame.Basic
import Crosstab.Proofs.Outcome
import Mathlib.Data.List.Nodup

/-!
# Rows of a frame

The `row` at a position of a table is its cells there with the names of their columns.  What is
proved here:

* taking rows keeps a table well formed (`wellFormed_take`), and the rows it takes are rows of the
  table (`row_take`);
* in a well-formed table a row has one cell for a name, the one at its place in the column
  (`mem_row_iff`).

A list with an entry for each row `follows` a relation between rows and entries if every entry is
the only one that its row alone allows.  `follows_take` says what that means for a table of some
rows of another one.
-/

namespace Crosstab

/-- The cells of one row, by the names of their columns. -/
abbrev NamedCells := List (String × Cell)

namespace Frame

/-! ## Well-formed tables -/

/-- A table whose columns have different names and a cell for each row. -/
structure WellFormed (f : Frame) : Prop where
  nodup_names : f.names.Nodup
  length_values : ∀ c ∈ f.columns, c.values.length = f.len

instance (f : Frame) : Decidable f.WellFormed :=
  decidable_of_iff (f.names.Nodup ∧ ∀ c ∈ f.columns, c.values.length = f.len)
    ⟨fun h => ⟨h.1, h.2⟩, fun h => ⟨h.nodup_names, h.length_values⟩⟩

theorem wellFormed_take {f : Frame} (hf : f.WellFormed) (rows : List Nat) :
    (f.take rows).WellFormed where
  nodup_names := by
    rw [names_take]
    exact hf.nodup_names
  length_values := by
    intro c hc
    obtain ⟨d, _, rfl⟩ := List.mem_map.mp hc
    simp [take]

/-! ## Single rows -/

/-- The row at a position. -/
def row (f : Frame) (i : Nat) : NamedCells := f.columns.map fun c => (c.name, c.values.getD i .null)

theorem row_take {f : Frame} {rows : List Nat} {i j : Nat} (h : rows[j]? = some i) :
    (f.take rows).row j = f.row i := by
  simp [row, take, h]

/-- Columns of a well-formed table with one name are one column. -/
theorem eq_of_name_eq {f : Frame} (hf : f.WellFormed) {c d : Column} (hc : c ∈ f.columns)
    (hd : d ∈ f.columns) (h : c.name = d.name) : c = d :=
  List.inj_on_of_nodup_map hf.nodup_names hc hd h

theorem require_eq_ok {f : Frame} {name : String} {c : Column} (h : f.require name = .ok c) :
    c ∈ f.columns ∧ c.name = name := by
  unfold require at h
  split at h
  · next d hd =>
    obtain rfl : d = c := by simpa using h
    exact ⟨List.mem_of_find?_eq_some hd, by simpa using List.find?_some hd⟩
  · simp [reject] at h

/-- In a well-formed table a row has one cell for a name. -/
theorem mem_row_iff {f : Frame} (hf : f.WellFormed) {c : Column} (hc : c ∈ f.columns) {i : Nat}
    {v : Cell} : (c.name, v) ∈ f.row i ↔ v = c.values.getD i .null := by
  simp only [row, List.mem_map, Prod.mk.injEq]
  constructor
  · rintro ⟨d, hd, hname, rfl⟩
    rw [eq_of_name_eq hf hd hc hname]
  · rintro rfl
    exact ⟨c, hc, rfl, rfl⟩

/-! ## Entries row by row -/

/-- A list has an entry for each row of a table, and each entry is the only one that `Means` allows
for its row. -/
structure Follows {α : Type} (f : Frame) (entries : List α) (Means : NamedCells → α → Prop) :
    Prop where
  length_eq : entries.length = f.len
  means_iff : ∀ {i : Nat} {a : α}, entries[i]? = some a → ∀ b, Means (f.row i) b ↔ b = a

namespace Follows

variable {α β : Type} {f : Frame} {M : NamedCells → α → Prop} {N : NamedCells → β → Prop}
  {as : List α} {bs : List β}

theorem congr {M' : NamedCells → α → Prop} (h : f.Follows as M)
    (hM : ∀ row a, M' row a ↔ M row a) : f.Follows as M' where
  length_eq := h.length_eq
  means_iff ha b := (hM _ b).trans (h.means_iff ha b)

theorem replicate (a : α) : f.Follows (List.replicate f.len a) fun _ b => b = a where
  length_eq := List.length_replicate
  means_iff := by
    intro i b hb c
    rw [List.getElem?_replicate] at hb
    split at hb
    · obtain rfl : a = b := by simpa using hb
      rfl
    · simp at hb

theorem map (h : f.Follows as M) (g : α → β) :
    f.Follows (as.map g) fun row b => ∃ a, M row a ∧ b = g a where
  length_eq := by rw [List.length_map, h.length_eq]
  means_iff := by
    intro i b hb c
    obtain ⟨a, ha, rfl⟩ := by simpa using hb
    simp [h.means_iff ha]

theorem zip (h : f.Follows as M) (k : f.Follows bs N) :
    f.Follows (as.zip bs) fun row p => M row p.1 ∧ N row p.2 where
  length_eq := by rw [List.length_zip, h.length_eq, k.length_eq, Nat.min_self]
  means_iff := by
    rintro i ⟨a, b⟩ hab ⟨c, d⟩
    obtain ⟨ha, hb⟩ := List.getElem?_zip_eq_some.mp hab
    rw [h.means_iff ha, k.means_iff hb, Prod.mk.injEq]

/-- A step that is made for every entry and succeeds. -/
theorem mapM {g : α → Outcome β} (h : f.Follows as M) (hg : as.mapM g = .ok bs) :
    f.Follows bs fun row b => ∃ a, M row a ∧ g a = .ok b where
  length_eq := by rw [length_of_mapM_eq_ok hg, h.length_eq]
  means_iff := by
    intro i b hb c
    obtain ⟨a, ha, hab⟩ := getElem?_of_mapM_eq_ok hg hb
    simp only [h.means_iff ha, exists_eq_left, hab, Except.ok.injEq]
    exact eq_comm

end Follows

theorem follows_take_nil {α : Type} (f : Frame) {rows : List Nat} {M : NamedCells → α → Prop}
    (h : rows = []) : (f.take rows).Follows [] M where
  length_eq := by simp [h, take_len]
  means_iff ha := by simp at ha

/-- What entries for some rows of a table say about these rows of the table. -/
theorem follows_take {α : Type} {f : Frame} {rows : List Nat} {entries : List α}
    {M : NamedCells → α → Prop} (h : (f.take rows).Follows entries M) {i : Nat} {a : α}
    (hi : (i, a) ∈ rows.zip entries) (b : α) : M (f.row i) b ↔ b = a := by
  obtain ⟨j, hj⟩ := List.mem_iff_getElem?.mp hi
  obtain ⟨hrow, hentry⟩ := List.getElem?_zip_eq_some.mp hj
  rw [← row_take hrow]
  exact h.means_iff hentry b

end Frame

end Crosstab
