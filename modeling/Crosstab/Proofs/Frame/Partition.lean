import Crosstab.Proofs.Frame.Edits

/-!
# Grouping is a partition

The rows of a table are put into groups one by one.  After every step the groups partition the rows
so far (`Partitions`): no two groups have one key, each holds the rows with its key in order, and
the groups stand in the order of their first rows.  A row changes the groups in one of two ways
(`addToGroup_cases`), and both keep this (`Partitions.add`), so it holds of all rows in the end
(`partitions_foldl`).

The group of a key may also be looked up in an index that is kept beside the groups
(`indexedGroups`).  As long as the index finds the place of each key (`Indexed.InStep`), a row goes
to the same group as without it, and the index finds the place of each key again
(`Indexed.add_spec`).
-/

namespace Crosstab.Frame

variable {f : Frame} {keys : List String} {gs : List Group} {n : Nat}

/-! ## What a row does to the groups -/

/-- A row goes to the one group of its key, or opens a group after the others. -/
theorem addToGroup_cases (key : List Cell) (row : Nat) (gs : List Group) :
    (∃ before rows after, gs = before ++ (key, rows) :: after ∧
      addToGroup key row gs = before ++ (key, rows ++ [row]) :: after) ∨
    (key ∉ gs.map Prod.fst ∧ addToGroup key row gs = gs ++ [(key, [row])]) := by
  induction gs with
  | nil => exact .inr ⟨List.not_mem_nil, rfl⟩
  | cons g gs ih =>
    obtain ⟨other, rows⟩ := g
    by_cases hkey : other = key
    · refine .inl ⟨[], rows, gs, ?_, ?_⟩
      · rw [hkey, List.nil_append]
      · rw [addToGroup, if_pos hkey, hkey, List.nil_append]
    · rcases ih with ⟨before, rows', after, rfl, hadd⟩ | ⟨hnew, hadd⟩
      · refine .inl ⟨(other, rows) :: before, rows', after, rfl, ?_⟩
        rw [addToGroup, if_neg hkey, hadd, List.cons_append]
      · refine .inr ⟨?_, ?_⟩
        · rw [List.map_cons, List.mem_cons, not_or]
          exact ⟨Ne.symm hkey, hnew⟩
        · rw [addToGroup, if_neg hkey, hadd, List.cons_append]

/-! ## Partitions -/

/-- The groups partition the first `n` rows by their keys. -/
structure Partitions (keyOf : Nat → List Cell) (n : Nat) (gs : List Group) : Prop where
  /-- No two groups have one key. -/
  nodup_keys : (gs.map Prod.fst).Nodup
  /-- No group is empty. -/
  rows_ne_nil : ∀ g ∈ gs, g.2 ≠ []
  /-- The rows of a group are in order. -/
  sorted : ∀ g ∈ gs, g.2.Pairwise (· < ·)
  /-- Every row is in one group, and there once. -/
  perm : (gs.flatMap Prod.snd).Perm (List.range n)
  /-- The key of a row is that of its group. -/
  key_eq : ∀ g ∈ gs, ∀ i ∈ g.2, keyOf i = g.1
  /-- The groups are in the order of their first rows. -/
  ordered : gs.Pairwise fun g h => ∀ i ∈ g.2.head?, ∀ j ∈ h.2.head?, i < j

namespace Partitions

variable {keyOf : Nat → List Cell}

theorem nil (keyOf : Nat → List Cell) : Partitions keyOf 0 [] where
  nodup_keys := List.nodup_nil
  rows_ne_nil := List.forall_mem_nil _
  sorted := List.forall_mem_nil _
  perm := .nil
  key_eq := List.forall_mem_nil _
  ordered := .nil

theorem lt_of_mem (h : Partitions keyOf n gs) {g : Group} (hg : g ∈ gs) {i : Nat} (hi : i ∈ g.2) :
    i < n :=
  List.mem_range.mp (h.perm.subset (List.mem_flatMap.mpr ⟨g, hg, hi⟩))

/-- The next row joins the group of its key. -/
theorem join {before after : List Group} {rows : List Nat}
    (h : Partitions keyOf n (before ++ (keyOf n, rows) :: after)) :
    Partitions keyOf (n + 1) (before ++ (keyOf n, rows ++ [n]) :: after) := by
  have hmem : (keyOf n, rows) ∈ before ++ (keyOf n, rows) :: after := by simp
  have hrows : rows ≠ [] := h.rows_ne_nil _ hmem
  have hothers : ∀ {P : Group → Prop}, (∀ g ∈ before ++ (keyOf n, rows) :: after, P g) →
      P (keyOf n, rows ++ [n]) → ∀ g ∈ before ++ (keyOf n, rows ++ [n]) :: after, P g := by
    intro P hall hnew
    rw [List.forall_mem_append, List.forall_mem_cons] at hall ⊢
    exact ⟨hall.1, hnew, hall.2.2⟩
  -- The row comes last in its group, so the first rows of the groups are what they were.
  have hhead : (rows ++ [n]).head? = rows.head? := List.head?_append_of_ne_nil _ hrows
  refine ⟨?_, hothers h.rows_ne_nil (by simp), hothers h.sorted ?_, ?_, hothers h.key_eq ?_, ?_⟩
  · simpa using h.nodup_keys
  · refine List.pairwise_append.mpr ⟨h.sorted _ hmem, List.pairwise_singleton _ _, ?_⟩
    intro i hi j hj
    rw [List.mem_singleton.mp hj]
    exact h.lt_of_mem hmem hi
  · have hlast : ((before ++ (keyOf n, rows ++ [n]) :: after).flatMap Prod.snd).Perm
        ((before ++ (keyOf n, rows) :: after).flatMap Prod.snd ++ [n]) := by
      simp only [List.flatMap_append, List.flatMap_cons, List.append_assoc]
      exact ((List.perm_append_comm).append_left rows).append_left _
    rw [List.range_succ]
    exact hlast.trans (h.perm.append_right [n])
  · intro i hi
    rcases List.mem_append.mp hi with hi | hi
    · exact h.key_eq _ hmem i hi
    · rw [List.mem_singleton.mp hi]
  · have hordered := h.ordered
    simp only [List.pairwise_append, List.pairwise_cons, List.forall_mem_cons, hhead]
      at hordered ⊢
    exact hordered

/-- The next row opens a group of its own. -/
theorem start (h : Partitions keyOf n gs) (hnew : keyOf n ∉ gs.map Prod.fst) :
    Partitions keyOf (n + 1) (gs ++ [(keyOf n, [n])]) := by
  have hothers : ∀ {P : Group → Prop}, (∀ g ∈ gs, P g) → P (keyOf n, [n]) →
      ∀ g ∈ gs ++ [(keyOf n, [n])], P g := by
    intro P hall hlast
    exact List.forall_mem_append.mpr ⟨hall, List.forall_mem_singleton.mpr hlast⟩
  refine ⟨?_, hothers h.rows_ne_nil (List.cons_ne_nil _ _),
    hothers h.sorted (List.pairwise_singleton _ _), ?_, hothers h.key_eq ?_, ?_⟩
  · rw [List.map_append, List.map_singleton, ← List.concat_eq_append]
    exact h.nodup_keys.concat hnew
  · rw [List.flatMap_append, List.flatMap_singleton, List.range_succ]
    exact h.perm.append_right [n]
  · exact fun i hi => congrArg keyOf (List.mem_singleton.mp hi)
  · refine List.pairwise_append.mpr ⟨h.ordered, List.pairwise_singleton _ _, ?_⟩
    rintro g hg _ hlast i hi j hj
    rw [List.mem_singleton.mp hlast] at hj
    obtain rfl : n = j := by simpa using hj
    exact h.lt_of_mem hg (List.mem_of_mem_head? hi)

/-- The next row keeps a partition. -/
theorem add (h : Partitions keyOf n gs) :
    Partitions keyOf (n + 1) (addToGroup (keyOf n) n gs) := by
  rcases addToGroup_cases (keyOf n) n gs with ⟨before, rows, after, rfl, hadd⟩ | ⟨hnew, hadd⟩
  · rw [hadd]
    exact h.join
  · rw [hadd]
    exact h.start hnew

end Partitions

theorem partitions_foldl (keyOf : Nat → List Cell) (n : Nat) :
    Partitions keyOf n ((List.range n).foldl (fun gs i => addToGroup (keyOf i) i gs) []) := by
  induction n with
  | zero => exact .nil keyOf
  | succ n ih =>
    rw [List.range_succ, List.foldl_append]
    exact ih.add

/-! ## Keys looked up in an index -/

theorem getElem?_concat_iff {α : Type} {as : List α} {a b : α} {i : Nat} :
    (as ++ [a])[i]? = some b ↔ as[i]? = some b ∨ i = as.length ∧ a = b := by
  rw [List.getElem?_append]
  split
  · next hlt => simp [Nat.ne_of_lt hlt]
  · next hge =>
    rw [List.getElem?_eq_none (Nat.le_of_not_lt hge), List.getElem?_singleton]
    split
    · simp; omega
    · simp; omega

section

variable [Hashable Cell]

/-- The groups so far, and an index of the places of their keys. -/
structure Indexed where
  /-- The groups, in order. -/
  groups : List Group
  /-- The place of the group of a key. -/
  places : Std.HashMap (List Cell) Nat

namespace Indexed

/-- No groups. -/
def empty : Indexed := ⟨[], ∅⟩

/-- Adds a row to the group that the index finds for its key, or opens a group after the others. -/
def add (t : Indexed) (key : List Cell) (row : Nat) : Indexed :=
  match t.places[key]? with
  | some place => { t with groups := t.groups.modify place fun (k, rows) => (k, rows ++ [row]) }
  | none => ⟨t.groups ++ [(key, [row])], t.places.insert key t.groups.length⟩

/-- The index finds the place of each key, and no other key. -/
def InStep (t : Indexed) : Prop :=
  ∀ (key : List Cell) (place : Nat),
    t.places[key]? = some place ↔ (t.groups.map Prod.fst)[place]? = some key

variable {t : Indexed}

theorem inStep_empty : empty.InStep := by
  intro key place
  simp [empty]

/-- **With an index in step, a row goes to the group that it goes to without one**, and the index
stays in step. -/
theorem add_spec (h : t.InStep) (key : List Cell) (row : Nat) :
    (t.add key row).groups = addToGroup key row t.groups ∧ (t.add key row).InStep := by
  obtain ⟨gs, places⟩ := t
  rcases addToGroup_cases key row gs with ⟨before, rows, after, rfl, hadd⟩ | ⟨hnew, hadd⟩
  · have hplace : places[key]? = some before.length := by
      refine (h key before.length).mpr ?_
      simp
    have hmodify : (before ++ (key, rows) :: after).modify before.length
        (fun (k, rows) => (k, rows ++ [row])) = before ++ (key, rows ++ [row]) :: after := by
      rw [List.modify_eq_take_cons_drop (by simp)]
      simp
    have hstep : add ⟨before ++ (key, rows) :: after, places⟩ key row =
        ⟨before ++ (key, rows ++ [row]) :: after, places⟩ := by
      simp only [add, hplace, hmodify]
    rw [hstep, hadd]
    refine ⟨rfl, fun other place => ?_⟩
    have hold := h other place
    simp only [List.map_append, List.map_cons] at hold ⊢
    exact hold
  · have hplace : places[key]? = none := by
      by_contra hsome
      obtain ⟨place, hplace⟩ := Option.ne_none_iff_exists'.mp hsome
      exact hnew (List.mem_of_getElem? ((h key place).mp hplace))
    have hstep : add ⟨gs, places⟩ key row =
        ⟨gs ++ [(key, [row])], places.insert key gs.length⟩ := by
      simp only [add, hplace]
    rw [hstep, hadd]
    refine ⟨rfl, fun other place => ?_⟩
    show (places.insert key gs.length)[other]? = some place ↔
      ((gs ++ [(key, [row])]).map Prod.fst)[place]? = some other
    rw [Std.HashMap.getElem?_insert, List.map_append, List.map_singleton, getElem?_concat_iff,
      List.length_map]
    by_cases hkey : key = other
    · subst hkey
      have hold : (gs.map Prod.fst)[place]? ≠ some key := fun hmem =>
        hnew (List.mem_of_getElem? hmem)
      rw [if_pos (beq_self_eq_true key), Option.some.injEq, or_iff_right hold, and_iff_left rfl]
      exact eq_comm
    · simpa [hkey] using h other place

theorem foldl_add_spec (keyOf : Nat → List Cell) (rows : List Nat) (h : t.InStep) :
    (rows.foldl (fun t i => t.add (keyOf i) i) t).groups =
      rows.foldl (fun gs i => addToGroup (keyOf i) i gs) t.groups := by
  induction rows generalizing t with
  | nil => rfl
  | cons i rows ih =>
    obtain ⟨hgroups, hstep⟩ := add_spec h (keyOf i) i
    rw [List.foldl_cons, List.foldl_cons, ih hstep, hgroups]

end Indexed

/-- The rows grouped by the cells of some columns, with an index of the keys. -/
def indexedGroups (f : Frame) (keys : List String) : Outcome (List Group) :=
  match keys with
  | [] => .ok [([], List.range f.len)]
  | _ => do
    let columns ← keys.mapM f.require
    let add (t : Indexed) (row : Nat) : Indexed := t.add (keyAt columns row) row
    return ((List.range f.len).foldl add .empty).groups

theorem indexedGroups_eq (f : Frame) (keys : List String) :
    f.indexedGroups keys = f.groups keys := by
  cases keys with
  | nil => rfl
  | cons key rest =>
    simp only [indexedGroups, groups, Indexed.foldl_add_spec _ _ Indexed.inStep_empty]
    rfl

end

/-! ## What grouping gives -/

/-- **Grouping is a partition.**  A well-formed table is grouped by columns that are there, and no
cell is missed.  No two groups have one key, the rows of each are in order and there is one at
least, every row is in one group and there once, its tuple is the key of its group, and the groups
are in the order of their first rows.  With an index of the keys, whatever the hash of a cell is,
the groups are the same. -/
theorem WellFormed.exists_partition [Hashable Cell] (hf : f.WellFormed) (hne : keys ≠ [])
    (hkeys : ∀ name ∈ keys, name ∈ f.names) :
    ∃ gs, f.groups keys = .ok gs ∧ f.groups? keys = .ok (some gs) ∧
      f.indexedGroups keys = .ok gs ∧ Partitions (f.tuple keys) f.len gs := by
  have hgroups := groups_eq_foldl hne hkeys
  refine ⟨_, hgroups, ?_, ?_, partitions_foldl _ _⟩
  · rw [hf.groups?_eq, hgroups]
    rfl
  · rw [indexedGroups_eq, hgroups]

/-- A column with nulls and with zeros of both signs. -/
def signedZeros : Frame :=
  ⟨[⟨"x", [.float .zero, .null, .float (-.zero), .float .zero, .null]⟩], 5⟩

/-- Nulls are one group and zeros of either sign another one, also where all hashes collide. -/
theorem exists_partition_signedZeros :
    signedZeros.groups ["x"] =
      .ok [([.float .zero], [0, 3]), ([.null], [1, 4]), ([.float (-.zero)], [2])] ∧
    @indexedGroups ⟨fun _ => 0⟩ signedZeros ["x"] = signedZeros.groups ["x"] ∧
    Partitions (signedZeros.tuple ["x"]) 5
      [([.float .zero], [0, 3]), ([.null], [1, 4]), ([.float (-.zero)], [2])] := by
  have hgroups : signedZeros.groups ["x"] =
      .ok [([.float .zero], [0, 3]), ([.null], [1, 4]), ([.float (-.zero)], [2])] := rfl
  obtain ⟨gs, hgs, -, hindexed, hparts⟩ := @WellFormed.exists_partition signedZeros ["x"]
    ⟨fun _ => 0⟩ (by decide) (by decide) (by decide)
  rw [hgroups] at hgs
  cases hgs
  exact ⟨hgroups, hindexed.trans hgroups.symm, hparts⟩

end Crosstab.Frame
