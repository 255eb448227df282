import Crosstab.Proofs.Frame.Rows
import Mathlib.Data.List.Induction
import Mathlib.Data.List.Sort

/-!
# Groups of rows

The `tuple` of a row under some keys is its cells in the columns of these names.  Grouping goes
through the rows one by one and keeps a list of groups that grow.  What comes out of it needs no
such loop to be told (`groups_eq_ok`): there is one group for each tuple that occurs, in the order
of the first rows that have it (`tuples`), and the group holds the positions of all rows with that
tuple, in order (`rowsWith`).

Taking rows does not change what they hold, so the same is told of the groups of some rows of a
table (`map_rowsWith_take`).  In particular, the tuples of two lists of keys that end in one tuple
of the second list are those of the first list in the rows with this tuple
(`filter_tuples_append`).
-/

namespace Crosstab.Frame

/-! ## Cells and tuples -/

/-- The cell of a row in the column of a name. -/
def cellAt (f : Frame) (name : String) (i : Nat) : Cell :=
  match f.column? name with
  | some c => c.values.getD i .null
  | none => .null

/-- The cells of a row in the columns of some names. -/
def tuple (f : Frame) (keys : List String) (i : Nat) : List Cell :=
  keys.map fun name => f.cellAt name i

theorem length_tuple (f : Frame) (keys : List String) (i : Nat) :
    (f.tuple keys i).length = keys.length := List.length_map _

theorem tuple_append (f : Frame) (keys more : List String) (i : Nat) :
    f.tuple (keys ++ more) i = f.tuple keys i ++ f.tuple more i :=
  List.map_append

theorem require_eq_ok_iff {f : Frame} {name : String} {c : Column} :
    f.require name = .ok c ↔ f.column? name = some c := by
  unfold require
  cases f.column? name with
  | none => simp [reject]
  | some d => simp

theorem exists_require {f : Frame} {name : String} (h : name ∈ f.names) :
    ∃ c, f.require name = .ok c := by
  obtain ⟨c, hc⟩ := Option.isSome_iff_exists.mp (hasColumn_iff.mpr h)
  exact ⟨c, require_eq_ok_iff.mpr hc⟩

/-- In a well-formed table a column is the one of its name. -/
theorem column?_eq_some_iff {f : Frame} (hf : f.WellFormed) {name : String} {c : Column} :
    f.column? name = some c ↔ c ∈ f.columns ∧ c.name = name := by
  rw [← require_eq_ok_iff]
  constructor
  · exact require_eq_ok
  · rintro ⟨hc, rfl⟩
    obtain ⟨d, hd⟩ := exists_require (List.mem_map_of_mem hc : c.name ∈ f.names)
    obtain ⟨hmem, hname⟩ := require_eq_ok hd
    rw [hd, eq_of_name_eq hf hmem hc hname]

theorem mem_names_of_require {f : Frame} {name : String} {c : Column}
    (h : f.require name = .ok c) : name ∈ f.names := by
  obtain ⟨hc, rfl⟩ := require_eq_ok h
  exact List.mem_map.mpr ⟨c, hc, rfl⟩

theorem cellAt_of_require {f : Frame} {name : String} {c : Column} (h : f.require name = .ok c)
    (i : Nat) : f.cellAt name i = c.values.getD i .null := by
  rw [cellAt, require_eq_ok_iff.mp h]

theorem cellAt_of_mem {f : Frame} (hf : f.WellFormed) {c : Column} (hc : c ∈ f.columns) (i : Nat) :
    f.cellAt c.name i = c.values.getD i .null := by
  have hcolumn : f.column? c.name = some c := (column?_eq_some_iff hf).mpr ⟨hc, rfl⟩
  rw [cellAt, hcolumn]

/-- The key of a row, as grouping reads it off the columns, is its tuple. -/
theorem keyAt_eq_tuple {f : Frame} {keys : List String} {columns : List Column}
    (h : keys.mapM f.require = .ok columns) (i : Nat) : keyAt columns i = f.tuple keys i := by
  induction keys generalizing columns with
  | nil =>
    obtain rfl : [] = columns := by simpa [pure_eq_ok_iff] using h
    rfl
  | cons key keys ih =>
    obtain ⟨c, rest, hc, hrest, rfl⟩ := mapM_cons_eq_ok_iff.mp h
    have htail := ih hrest
    simp only [keyAt, tuple, List.map_cons] at htail ⊢
    rw [htail, cellAt_of_require hc]

/-! ## Some of the rows -/

theorem column?_take (f : Frame) (rows : List Nat) (name : String) :
    (f.take rows).column? name =
      (f.column? name).map fun c => ⟨c.name, rows.map fun i => c.values.getD i .null⟩ := by
  simp only [column?, take, List.find?_map]
  rfl

theorem cellAt_take {f : Frame} {rows : List Nat} {i j : Nat} (h : rows[j]? = some i)
    (name : String) : (f.take rows).cellAt name j = f.cellAt name i := by
  simp only [cellAt, column?_take]
  cases f.column? name with
  | none => rfl
  | some c => simp [List.getD_eq_getElem?_getD, h]

theorem tuple_take {f : Frame} {rows : List Nat} {i j : Nat} (h : rows[j]? = some i)
    (keys : List String) : (f.take rows).tuple keys j = f.tuple keys i := by
  simp only [tuple, cellAt_take h]

theorem getElem?_eq_getD {α : Type} {entries : List α} {i : Nat} (h : i < entries.length) (d : α) :
    entries[i]? = some (entries.getD i d) := by
  rw [List.getD_eq_getElem?_getD, List.getElem?_eq_getElem h, Option.getD_some]

/-- A list is its entries at all of its positions. -/
theorem map_getD_range {α : Type} (entries : List α) (d : α) :
    (List.range entries.length).map (fun i => entries.getD i d) = entries := by
  refine List.ext_getElem (by simp) ?_
  intro i _ hi
  simp [List.getD_eq_getElem?_getD, List.getElem?_eq_getElem hi]

/-- The entries at the positions at which they satisfy a test. -/
theorem map_getD_filter_range {α : Type} (entries : List α) (d : α) (q : α → Bool) :
    (((List.range entries.length).filter fun i => q (entries.getD i d)).map
      fun i => entries.getD i d) = entries.filter q := by
  conv_rhs => rw [← map_getD_range entries d, List.filter_map]
  rfl

/-- Rows of some rows are rows of the table. -/
theorem take_take (f : Frame) {rows inner : List Nat} (h : ∀ j ∈ inner, j < rows.length) :
    (f.take rows).take inner = f.take (inner.map fun j => rows.getD j 0) := by
  simp only [take, List.map_map, List.length_map, Frame.mk.injEq, and_true]
  refine List.map_congr_left ?_
  intro c _
  simp only [Function.comp_apply, Column.mk.injEq, true_and]
  refine List.map_congr_left ?_
  intro j hj
  simp [List.getD_eq_getElem?_getD, List.getElem?_eq_getElem (h j hj)]

/-- A well-formed table is all of its rows. -/
theorem take_range {f : Frame} (hf : f.WellFormed) : f.take (List.range f.len) = f := by
  simp only [take, List.length_range]
  congr 1
  refine (List.map_congr_left ?_).trans f.columns.map_id
  rintro ⟨name, values⟩ hc
  simp only [← hf.length_values _ hc, map_getD_range, id_eq]

/-! ## What grouping gives -/

/-- The tuples that occur, in the order of the first rows that have them; without keys there is
one, of no cells. -/
def tuples (f : Frame) (keys : List String) : List (List Cell) :=
  match keys with
  | [] => [[]]
  | _ => ((List.range f.len).map (f.tuple keys)).eraseDups

/-- The positions of the rows with a tuple, in order. -/
def rowsWith (f : Frame) (keys : List String) (key : List Cell) : List Nat :=
  (List.range f.len).filter fun i => f.tuple keys i == key

theorem mem_rowsWith {f : Frame} {keys : List String} {key : List Cell} {i : Nat} :
    i ∈ f.rowsWith keys key ↔ i < f.len ∧ f.tuple keys i = key := by
  simp [rowsWith]

/-- Without keys there is one tuple, also in a table without rows. -/
theorem mem_tuples_iff {f : Frame} {keys : List String} {key : List Cell} :
    key ∈ f.tuples keys ↔ keys = [] ∧ key = [] ∨ ∃ i, i < f.len ∧ f.tuple keys i = key := by
  cases keys with
  | nil =>
    simp only [tuples, List.mem_singleton, true_and, tuple, List.map_nil]
    exact ⟨.inl, fun h => h.elim id fun ⟨_, _, h⟩ => h.symm⟩
  | cons k rest => simp [tuples, List.mem_eraseDups]

theorem length_of_mem_tuples {f : Frame} {keys : List String} {key : List Cell}
    (h : key ∈ f.tuples keys) : key.length = keys.length := by
  rcases mem_tuples_iff.mp h with ⟨rfl, rfl⟩ | ⟨i, _, rfl⟩
  · rfl
  · simp [tuple]

/-- A row goes to the group of its key, which is opened if there is none. -/
theorem addToGroup_map {keys : List (List Cell)} (hkeys : keys.Nodup)
    (rowsOf : List Cell → List Nat) (key : List Cell) (i : Nat) :
    addToGroup key i (keys.map fun k => (k, rowsOf k)) =
      if key ∈ keys then keys.map fun k => (k, if k = key then rowsOf k ++ [i] else rowsOf k)
      else keys.map (fun k => (k, rowsOf k)) ++ [(key, [i])] := by
  induction keys with
  | nil => rfl
  | cons k keys ih =>
    obtain ⟨hk, hkeys⟩ := List.nodup_cons.mp hkeys
    simp only [List.map_cons, addToGroup]
    by_cases hkey : k = key
    · subst hkey
      simp only [if_true, List.mem_cons, true_or, List.cons.injEq, true_and]
      refine List.map_congr_left ?_
      intro other hother
      rw [if_neg (ne_of_mem_of_not_mem hother hk)]
    · simp only [if_neg hkey, ih hkeys, List.mem_cons, Ne.symm hkey, false_or]
      split <;> rfl

theorem eraseDups_concat {α : Type} [BEq α] [LawfulBEq α] (members : List α) (a : α) :
    (members ++ [a]).eraseDups =
      if a ∈ members then members.eraseDups else members.eraseDups ++ [a] := by
  rw [List.eraseDups_append]
  split
  · next h => simp [List.removeAll, List.elem_eq_contains, h]
  · next h => simp [List.removeAll, List.elem_eq_contains, h, List.eraseDups_cons]

theorem nodup_eraseDups {α : Type} [BEq α] [LawfulBEq α] (members : List α) :
    members.eraseDups.Nodup := by
  induction members using List.reverseRecOn with
  | nil => exact List.nodup_nil
  | append_singleton members a ih =>
    rw [eraseDups_concat]
    split
    · exact ih
    · next hnew =>
      rw [← List.concat_eq_append]
      exact ih.concat fun hmem => hnew (List.mem_eraseDups.mp hmem)

theorem filter_eraseDups (q : List Cell → Bool) (keys : List (List Cell)) :
    keys.eraseDups.filter q = (keys.filter q).eraseDups := by
  induction keys using List.reverseRecOn with
  | nil => rfl
  | append_singleton keys key ih =>
    rw [eraseDups_concat, List.filter_append]
    by_cases hq : q key = true
    · rw [List.filter_cons_of_pos hq, List.filter_nil, eraseDups_concat, ← ih]
      by_cases hkey : key ∈ keys
      · rw [if_pos hkey, if_pos (List.mem_filter.mpr ⟨hkey, hq⟩)]
      · have hnew : key ∉ keys.filter q := fun hmem => hkey (List.mem_of_mem_filter hmem)
        rw [if_neg hkey, if_neg hnew, List.filter_append, List.filter_cons_of_pos hq,
          List.filter_nil]
    · rw [List.filter_cons_of_neg hq, List.filter_nil, List.append_nil, ← ih]
      split
      · rfl
      · rw [List.filter_append, List.filter_cons_of_neg hq, List.filter_nil, List.append_nil]

theorem map_eraseDups {f : List Cell → List Cell} (hf : Function.Injective f)
    (keys : List (List Cell)) : keys.eraseDups.map f = (keys.map f).eraseDups := by
  induction keys using List.reverseRecOn with
  | nil => rfl
  | append_singleton keys key ih =>
    rw [eraseDups_concat, List.map_append, List.map_singleton, eraseDups_concat, ← ih]
    by_cases hkey : key ∈ keys
    · rw [if_pos hkey, if_pos (List.mem_map_of_mem hkey)]
    · have hnew : f key ∉ keys.map f := fun hmem => hkey ((List.mem_map_of_injective hf).mp hmem)
      rw [if_neg hkey, if_neg hnew, List.map_append, List.map_singleton]

/-- Grouping the first `n` rows one by one: the keys are those that occur, and each has all of its
rows. -/
theorem foldl_addToGroup (keyOf : Nat → List Cell) (n : Nat) :
    (List.range n).foldl (fun gs i => addToGroup (keyOf i) i gs) [] =
      ((List.range n).map keyOf).eraseDups.map fun key =>
        (key, (List.range n).filter fun i => keyOf i == key) := by
  induction n with
  | zero => simp [List.eraseDups_nil]
  | succ n ih =>
    rw [List.range_succ, List.map_append, List.map_singleton, List.foldl_append, List.foldl_cons,
      List.foldl_nil, ih, addToGroup_map (nodup_eraseDups _), eraseDups_concat]
    simp only [List.filter_append, List.mem_eraseDups]
    split
    · -- an old key: its group grows, the others see no new row
      refine List.map_congr_left ?_
      intro key _
      by_cases h : key = keyOf n
      · simp [h]
      · simp [h, Ne.symm h]
    · -- a new key: its group comes last, and no earlier row is in it
      next hkey =>
      have hnew : keyOf n ∉ ((List.range n).map keyOf).eraseDups := by rwa [List.mem_eraseDups]
      have hfirst : (List.range n).filter (fun i => keyOf i == keyOf n) = [] := by
        rw [List.filter_eq_nil_iff]
        intro i hi heq
        exact hkey (List.mem_map.mpr ⟨i, hi, by simpa using heq⟩)
      rw [List.map_append]
      congr 1
      · refine List.map_congr_left ?_
        intro key hold
        simp [Ne.symm (ne_of_mem_of_not_mem hold hnew)]
      · simp [hfirst]

theorem nodup_tuples (f : Frame) (keys : List String) : (f.tuples keys).Nodup := by
  cases keys with
  | nil => exact List.nodup_singleton _
  | cons k rest => exact nodup_eraseDups _

/-- Rows are grouped by their tuples. -/
theorem groups_eq_foldl {f : Frame} {keys : List String} (hne : keys ≠ [])
    (h : ∀ name ∈ keys, name ∈ f.names) :
    f.groups keys =
      .ok ((List.range f.len).foldl (fun gs i => addToGroup (f.tuple keys i) i gs) []) := by
  obtain ⟨columns, hcolumns⟩ := exists_mapM_eq_ok fun name hname => exists_require (h name hname)
  cases keys with
  | nil => exact absurd rfl hne
  | cons k rest =>
    simp only [groups, hcolumns, ok_bind, keyAt_eq_tuple hcolumns]
    rfl

/-- **What grouping gives.**  There is a group for each tuple that occurs, with the positions of all
of its rows. -/
theorem groups_eq_ok {f : Frame} {keys : List String} (h : ∀ name ∈ keys, name ∈ f.names) :
    f.groups keys = .ok ((f.tuples keys).map fun key => (key, f.rowsWith keys key)) := by
  cases keys with
  | nil => simp [groups, tuples, rowsWith, tuple]
  | cons k rest =>
    rw [groups_eq_foldl (List.cons_ne_nil k rest) h]
    exact congrArg Except.ok (foldl_addToGroup (f.tuple (k :: rest)) f.len)

/-- Rows are grouped by columns that are there. -/
theorem mem_names_of_groups {f : Frame} {keys : List String} {gs : List Group}
    (h : f.groups keys = .ok gs) : ∀ name ∈ keys, name ∈ f.names := by
  cases keys with
  | nil => simp
  | cons k rest =>
    obtain ⟨columns, hcolumns, _⟩ := bind_eq_ok_iff.mp h
    intro name hname
    obtain ⟨c, _, hc⟩ := exists_mem_of_mapM_eq_ok hcolumns hname
    exact mem_names_of_require hc

/-- The positions of the rows with a tuple among some rows. -/
theorem map_rowsWith_take (f : Frame) (rows : List Nat) (keys : List String) (key : List Cell) :
    ((f.take rows).rowsWith keys key).map (fun j => rows.getD j 0) =
      rows.filter fun i => f.tuple keys i == key := by
  rw [← map_getD_filter_range rows 0, rowsWith, take_len]
  congr 1
  refine List.filter_congr ?_
  intro j hj
  rw [tuple_take (getElem?_eq_getD (List.mem_range.mp hj) 0)]

/-- Among the tuples of two lists of keys, those that end in a tuple of the second list are the
tuples of the first list in the rows with this tuple. -/
theorem filter_tuples_append (f : Frame) (keys more : List String) {key : List Cell}
    (hkey : key ∈ f.tuples more) :
    (f.tuples (keys ++ more)).filter (fun t => t.drop keys.length == key) =
      ((f.take (f.rowsWith more key)).tuples keys).map (· ++ key) := by
  cases keys with
  | nil =>
    have hone : (f.tuples more).count key = 1 :=
      List.count_eq_one_of_mem (nodup_tuples f more) hkey
    show (f.tuples more).filter (fun t => t == key) = [key]
    rw [List.filter_beq, hone]
    rfl
  | cons k rest =>
    have hends : ∀ i, ((f.tuple (k :: rest ++ more) i).drop (k :: rest).length == key) =
        (f.tuple more i == key) := by
      intro i
      rw [tuple_append, List.drop_left' (f.length_tuple _ i)]
    have hleft : ((List.range f.len).map (f.tuple (k :: rest ++ more))).filter
          (fun t => t.drop (k :: rest).length == key) =
        (f.rowsWith more key).map (f.tuple (k :: rest ++ more)) := by
      rw [List.filter_map, rowsWith]
      congr 1
      exact List.filter_congr fun i _ => hends i
    have hright : (List.range (f.rowsWith more key).length).map
          ((f.take (f.rowsWith more key)).tuple (k :: rest)) =
        (f.rowsWith more key).map (f.tuple (k :: rest)) := by
      conv_rhs => rw [← map_getD_range (f.rowsWith more key) 0, List.map_map]
      refine List.map_congr_left ?_
      intro j hj
      exact tuple_take (getElem?_eq_getD (List.mem_range.mp hj) 0) _
    have happend : Function.Injective (· ++ key : List Cell → List Cell) :=
      fun _ _ h => List.append_cancel_right h
    show ((List.range f.len).map (f.tuple (k :: rest ++ more))).eraseDups.filter _ =
      ((List.range (f.rowsWith more key).length).map _).eraseDups.map _
    rw [filter_eraseDups, hleft, hright, map_eraseDups happend, List.map_map]
    congr 1
    refine List.map_congr_left ?_
    intro i hi
    rw [tuple_append, Function.comp_apply, (mem_rowsWith.mp hi).2]

theorem drop_mem_tuples {f : Frame} {keys more : List String} {key : List Cell}
    (h : key ∈ f.tuples (keys ++ more)) : key.drop keys.length ∈ f.tuples more := by
  rcases mem_tuples_iff.mp h with ⟨hnil, rfl⟩ | ⟨i, hi, rfl⟩
  · exact mem_tuples_iff.mpr (.inl ⟨(List.append_eq_nil_iff.mp hnil).2, List.drop_nil⟩)
  · refine mem_tuples_iff.mpr (.inr ⟨i, hi, ?_⟩)
    rw [tuple_append, List.drop_left' (f.length_tuple keys i)]

/-- No two rows have one tuple of keys. -/
def DistinctOn (f : Frame) (keys : List String) : Prop :=
  ∀ i < f.len, ∀ j < f.len, f.tuple keys i = f.tuple keys j → i = j

instance (f : Frame) (keys : List String) : Decidable (f.DistinctOn keys) :=
  inferInstanceAs (Decidable (∀ i < f.len, ∀ j < f.len, f.tuple keys i = f.tuple keys j → i = j))

/-! ## Chosen rows -/

/-- The positions, in order, of the rows at which `P` holds. -/
structure Selects (f : Frame) (P : Nat → Prop) (rows : List Nat) : Prop where
  sorted : rows.Pairwise (· < ·)
  mem_iff : ∀ i, i ∈ rows ↔ i < f.len ∧ P i

namespace Selects

variable {f : Frame} {P Q R : Nat → Prop} {rows inner : List Nat}

theorem rowsWith (f : Frame) (keys : List String) (key : List Cell) :
    f.Selects (fun i => f.tuple keys i = key) (f.rowsWith keys key) where
  sorted := List.pairwise_lt_range.filter _
  mem_iff _ := mem_rowsWith

theorem lt_len (h : f.Selects P rows) : ∀ i ∈ rows, i < f.len :=
  fun i hi => ((h.mem_iff i).mp hi).1

theorem congr (h : f.Selects P rows) (hPQ : ∀ i < f.len, P i ↔ Q i) : f.Selects Q rows where
  sorted := h.sorted
  mem_iff i := (h.mem_iff i).trans (and_congr_right (hPQ i))

/-- The rows that are chosen are fixed by the choice. -/
theorem eq_of_selects {rows' : List Nat} (h : f.Selects P rows) (k : f.Selects P rows') :
    rows = rows' :=
  h.sorted.eq_of_mem_iff k.sorted fun i => (h.mem_iff i).trans (k.mem_iff i).symm

/-- Rows that are chosen among chosen rows. -/
theorem comp (h : f.Selects P rows) (k : (f.take rows).Selects Q inner)
    (hQ : ∀ i j, rows[j]? = some i → (Q j ↔ R i)) :
    f.Selects (fun i => P i ∧ R i) (inner.map fun j => rows.getD j 0) where
  sorted := by
    rw [List.pairwise_map]
    refine k.sorted.imp_of_mem ?_
    intro a b ha hb hab
    obtain ⟨_, ha⟩ := List.getElem?_eq_some_iff.mp (getElem?_eq_getD (k.lt_len a ha) 0)
    obtain ⟨_, hb⟩ := List.getElem?_eq_some_iff.mp (getElem?_eq_getD (k.lt_len b hb) 0)
    rw [← ha, ← hb]
    exact List.pairwise_iff_getElem.mp h.sorted a b _ _ hab
  mem_iff := by
    intro i
    rw [List.mem_map]
    constructor
    · rintro ⟨j, hj, rfl⟩
      obtain ⟨hlt, hQj⟩ := (k.mem_iff j).mp hj
      have hget : rows[j]? = some (rows.getD j 0) := getElem?_eq_getD hlt 0
      obtain ⟨hi, hP⟩ := (h.mem_iff _).mp (List.mem_of_getElem? hget)
      exact ⟨hi, hP, (hQ _ j hget).mp hQj⟩
    · rintro ⟨hi, hP, hR⟩
      obtain ⟨j, hj⟩ := List.mem_iff_getElem?.mp ((h.mem_iff i).mpr ⟨hi, hP⟩)
      have hlt : j < (f.take rows).len := (List.getElem?_eq_some_iff.mp hj).1
      refine ⟨j, (k.mem_iff j).mpr ⟨hlt, (hQ i j hj).mpr hR⟩, ?_⟩
      rw [List.getD_eq_getElem?_getD, hj, Option.getD_some]

/-- The tuples that occur among chosen rows. -/
theorem mem_tuples_iff (h : f.Selects P rows) {keys : List String} {key : List Cell} :
    key ∈ (f.take rows).tuples keys ↔
      keys = [] ∧ key = [] ∨ ∃ i < f.len, P i ∧ f.tuple keys i = key := by
  rw [Frame.mem_tuples_iff]
  refine or_congr_right ?_
  constructor
  · rintro ⟨j, hj, rfl⟩
    have hget : rows[j]? = some rows[j] := List.getElem?_eq_getElem hj
    obtain ⟨hi, hP⟩ := (h.mem_iff _).mp (List.mem_of_getElem? hget)
    exact ⟨rows[j], hi, hP, (tuple_take hget keys).symm⟩
  · rintro ⟨i, hi, hP, rfl⟩
    obtain ⟨j, hj⟩ := List.mem_iff_getElem?.mp ((h.mem_iff i).mpr ⟨hi, hP⟩)
    exact ⟨j, (List.getElem?_eq_some_iff.mp hj).1, tuple_take hj keys⟩

/-- No two chosen rows have one tuple of keys if no two rows have. -/
theorem distinctOn_take (h : f.Selects P rows) {keys : List String} (hf : f.DistinctOn keys) :
    (f.take rows).DistinctOn keys := by
  intro j hj k hk heq
  have hj' : rows[j]? = some rows[j] := List.getElem?_eq_getElem hj
  have hk' : rows[k]? = some rows[k] := List.getElem?_eq_getElem hk
  rw [tuple_take hj', tuple_take hk'] at heq
  have hsame := hf _ (h.lt_len _ (List.mem_of_getElem? hj')) _
    (h.lt_len _ (List.mem_of_getElem? hk')) heq
  have hnodup : rows.Nodup := h.sorted.imp Nat.ne_of_lt
  exact (List.Nodup.getElem_inj_iff hnodup).mp hsame

end Selects

end Crosstab.Frame
