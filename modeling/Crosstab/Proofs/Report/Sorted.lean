import Crosstab.Proofs.Cell.Compared

/-!
# Sorting rows

A sort key means the column of its name, or else the first column whose name has it for its first
segment, or else none (`Table.Resolves`).  Rows are compared by the columns that the keys mean, one
after the other: `RowBefore` says that a row is before another in the first column in which they do
not tie, where missing cells come last in either direction.

A list is `StablySorted` if it has the same rows, no row before an earlier one, and rows that tie in
the order in which they came.  There is one such list (`StablySorted.unique`), and sorting gives it
(`Table.stablySorted_sortRows`), where each column that is sorted by has cells of one kind.  The
order of rows is linear there because cells of one kind are ordered by their parts.
-/

namespace Crosstab

/-! ## First segments -/

namespace Text

variable {mark cs before after : List Char}

/-- A text is split at the first place of a mark. -/
theorem splitAt?_eq_some (h : splitAt? mark cs = some (before, after)) :
    cs = before ++ mark ++ after ∧ ∀ a b, cs = a ++ mark ++ b → before.length ≤ a.length := by
  induction cs generalizing before with
  | nil => exact absurd h nofun
  | cons c rest ih =>
    rw [splitAt?] at h
    by_cases hstart : mark.isPrefixOf (c :: rest) = true
    · rw [if_pos hstart] at h
      cases h
      obtain ⟨tail, htail⟩ := List.isPrefixOf_iff_prefix.mp hstart
      refine ⟨?_, fun _ _ _ => Nat.zero_le _⟩
      rw [← htail, List.drop_left, List.nil_append]
    · rw [if_neg hstart] at h
      obtain ⟨⟨before', after'⟩, hrest, heq⟩ := Option.map_eq_some_iff.mp h
      cases heq
      obtain ⟨hparts, hfirst⟩ := ih hrest
      refine ⟨by rw [hparts]; rfl, ?_⟩
      intro a b hab
      cases a with
      | nil => exact absurd (List.isPrefixOf_iff_prefix.mpr ⟨b, hab.symm⟩) hstart
      | cons d a => exact Nat.succ_le_succ (hfirst a b (List.cons.inj hab).2)

/-- A text that is not split has no place of the mark. -/
theorem splitAt?_eq_none (hmark : mark ≠ []) (h : splitAt? mark cs = none) (a b : List Char) :
    cs ≠ a ++ mark ++ b := by
  induction cs generalizing a with
  | nil =>
    intro hab
    simp [hmark] at hab
  | cons c rest ih =>
    rw [splitAt?] at h
    by_cases hstart : mark.isPrefixOf (c :: rest) = true
    · rw [if_pos hstart] at h
      exact absurd h nofun
    · rw [if_neg hstart] at h
      intro hab
      cases a with
      | nil => exact hstart (List.isPrefixOf_iff_prefix.mpr ⟨b, hab.symm⟩)
      | cons d a => exact ih (Option.map_eq_none_iff.mp h) a (List.cons.inj hab).2

end Text

/-- The part of a name in front of the first separator, or the name itself if it has none. -/
def FirstSegment (name segment : String) : Prop :=
  (name = segment ∧ ∀ a b, name ≠ a ++ columnSeparator ++ b) ∨
    ∃ rest, name = segment ++ columnSeparator ++ rest ∧
      ∀ a b, name = a ++ columnSeparator ++ b → segment.length ≤ a.length

/-- A name has one first segment. -/
theorem FirstSegment.unique {name segment segment' : String} (h : FirstSegment name segment)
    (h' : FirstSegment name segment') : segment = segment' := by
  rcases h with ⟨rfl, hnone⟩ | ⟨rest, hrest, hfirst⟩
  · rcases h' with ⟨rfl, -⟩ | ⟨rest', hrest', -⟩
    · rfl
    · exact absurd hrest' (hnone _ _)
  · rcases h' with ⟨-, hnone'⟩ | ⟨rest', hrest', hfirst'⟩
    · exact absurd hrest (hnone' _ _)
    · have hlength : segment.length = segment'.length :=
        Nat.le_antisymm (hfirst _ _ hrest') (hfirst' _ _ hrest)
      have hlists := congrArg String.toList (hrest.symm.trans hrest')
      simp only [String.toList_append, List.append_assoc] at hlists
      exact String.toList_inj.mp (List.append_inj_left hlists hlength)

theorem Table.firstSegment_firstPart (name : String) : FirstSegment name (firstPart name) := by
  have hlists : ∀ {a b : String}, name = a ++ columnSeparator ++ b →
      name.toList = a.toList ++ columnSeparator.toList ++ b.toList := by
    rintro a b rfl
    simp
  unfold firstPart
  split
  · next before after h =>
    obtain ⟨hparts, hfirst⟩ := Text.splitAt?_eq_some h
    refine .inr ⟨String.ofList after, ?_, ?_⟩
    · apply String.toList_inj.mp
      simpa using hparts
    · intro a b hab
      rw [String.length_ofList]
      exact hfirst _ _ (hlists hab)
  · next h =>
    refine .inl ⟨rfl, fun a b hab => ?_⟩
    exact Text.splitAt?_eq_none (by decide) h _ _ (hlists hab)

theorem Table.firstPart_eq_iff {name segment : String} :
    firstPart name = segment ↔ FirstSegment name segment := by
  constructor
  · rintro rfl
    exact firstSegment_firstPart name
  · exact (firstSegment_firstPart name).unique

/-! ## What sort keys mean -/

/-- The column that the name of a sort key means: the first of this name, or else the first with
this first segment, or else none. -/
inductive Table.Resolves (t : Table) (name : String) : Option Nat → Prop where
  | named {i : Nat} (hi : t.columns[i]? = some name)
      (hfirst : ∀ j < i, t.columns[j]? ≠ some name) : t.Resolves name (some i)
  | opened {i : Nat} {column : String} (hnone : name ∉ t.columns)
      (hi : t.columns[i]? = some column) (hopens : FirstSegment column name)
      (hfirst : ∀ j < i, ∀ c, t.columns[j]? = some c → ¬FirstSegment c name) :
      t.Resolves name (some i)
  | ignored (hnone : name ∉ t.columns) (hopens : ∀ c ∈ t.columns, ¬FirstSegment c name) :
      t.Resolves name none

theorem Table.resolves_sortColumn? (t : Table) (k : SortKey) :
    t.Resolves k.name (t.sortColumn? k) := by
  unfold sortColumn? columnIndex?
  cases hexact : t.columns.findIdx? (· == k.name) with
  | some i =>
    obtain ⟨hlt, hi, hfirst⟩ := List.findIdx?_eq_some_iff_getElem.mp hexact
    refine .named (List.getElem?_eq_some_iff.mpr ⟨hlt, beq_iff_eq.mp hi⟩) ?_
    intro j hj heq
    obtain ⟨hlt', heq⟩ := List.getElem?_eq_some_iff.mp heq
    exact hfirst j hj (beq_iff_eq.mpr heq)
  | none =>
    have hnone : k.name ∉ t.columns := by
      intro hmem
      exact absurd (List.findIdx?_eq_none_iff.mp hexact _ hmem) (by simp)
    rw [Option.none_or]
    cases hopens : t.columns.findIdx? fun c => firstPart c == k.name with
    | some i =>
      obtain ⟨hlt, hi, hfirst⟩ := List.findIdx?_eq_some_iff_getElem.mp hopens
      have hsegment := firstPart_eq_iff.mp (beq_iff_eq.mp hi)
      refine .opened hnone (List.getElem?_eq_getElem hlt) hsegment ?_
      intro j hj c hc hsegment
      obtain ⟨hlt', rfl⟩ := List.getElem?_eq_some_iff.mp hc
      exact hfirst j hj (beq_iff_eq.mpr (firstPart_eq_iff.mpr hsegment))
    | none =>
      refine .ignored hnone ?_
      intro c hc hsegment
      have hfalse := List.findIdx?_eq_none_iff.mp hopens c hc
      rw [firstPart_eq_iff.mpr hsegment, beq_self_eq_true] at hfalse
      exact absurd hfalse nofun

/-- The columns that sort keys mean, each with its direction. -/
inductive Table.ResolvesAll (t : Table) : List SortKey → List (Nat × Bool) → Prop where
  | nil : t.ResolvesAll [] []
  | column {k : SortKey} {keys : List SortKey} {i : Nat} {targets : List (Nat × Bool)} :
    t.Resolves k.name (some i) → t.ResolvesAll keys targets →
      t.ResolvesAll (k :: keys) ((i, k.ascending) :: targets)
  | ignored {k : SortKey} {keys : List SortKey} {targets : List (Nat × Bool)} :
    t.Resolves k.name none → t.ResolvesAll keys targets → t.ResolvesAll (k :: keys) targets

theorem Table.resolvesAll_targets (t : Table) (keys : List SortKey) :
    t.ResolvesAll keys (t.targets keys) := by
  induction keys with
  | nil => exact .nil
  | cons k keys ih =>
    have hk := t.resolves_sortColumn? k
    unfold targets
    rw [List.filterMap_cons]
    cases hcolumn : t.sortColumn? k with
    | none =>
      rw [hcolumn] at hk
      exact .ignored hk ih
    | some i =>
      rw [hcolumn] at hk
      exact .column hk ih

/-! ## Rows before others -/

/-- The cell is before the other in a column with a direction. -/
def CellBefore (ascending : Bool) : Option Cell → Option Cell → Prop
  | some a, some b => a.order b = if ascending then .lt else .gt
  | some _, none => True
  | none, _ => False

/-- Neither cell is before the other. -/
def CellTies : Option Cell → Option Cell → Prop
  | some a, some b => a.order b = .eq
  | none, none => True
  | _, _ => False

instance : DecidableRel CellTies
  | some a, some b => inferInstanceAs (Decidable (a.order b = .eq))
  | none, none => inferInstanceAs (Decidable True)
  | some _, none => inferInstanceAs (Decidable False)
  | none, some _ => inferInstanceAs (Decidable False)

/-- The row is before the other in the first column in which they do not tie. -/
def RowBefore : List (Nat × Bool) → Row → Row → Prop
  | [], _, _ => False
  | (i, ascending) :: targets, q, r =>
    CellBefore ascending (q.cellAt? i) (r.cellAt? i) ∨
      CellTies (q.cellAt? i) (r.cellAt? i) ∧ RowBefore targets q r

/-- The rows tie in all columns. -/
def RowTies (targets : List (Nat × Bool)) (q r : Row) : Prop :=
  ∀ target ∈ targets, CellTies (q.cellAt? target.1) (r.cellAt? target.1)

instance (targets : List (Nat × Bool)) : DecidableRel (RowTies targets) := fun _ _ =>
  inferInstanceAs (Decidable (∀ target ∈ targets, _))

/-- A stable reordering of rows that is sorted by columns with directions. -/
structure StablySorted (targets : List (Nat × Bool)) (rows sorted : List Row) : Prop where
  perm : sorted.Perm rows
  /-- No row is before an earlier one. -/
  ordered : sorted.Pairwise fun q r => ¬RowBefore targets r q
  /-- Rows that tie come in the order in which they came. -/
  stable : ∀ q ∈ rows, sorted.filter (RowTies targets q ·) = rows.filter (RowTies targets q ·)

namespace Table

theorem cellOrder_eq_lt_iff {ascending : Bool} {a b : Option Cell} :
    cellOrder ascending a b = .lt ↔ CellBefore ascending a b := by
  cases a with
  | none => cases b <;> exact iff_of_false nofun id
  | some a =>
    cases b with
    | none => exact iff_of_true rfl trivial
    | some b =>
      cases ascending
      · show b.order a = .lt ↔ a.order b = .gt
        rw [Cell.order_swap a b, Ordering.swap_eq_gt]
      · exact Iff.rfl

theorem cellOrder_eq_eq_iff {ascending : Bool} {a b : Option Cell} :
    cellOrder ascending a b = .eq ↔ CellTies a b := by
  cases a with
  | none =>
    cases b with
    | none => exact iff_of_true rfl trivial
    | some b => exact iff_of_false nofun id
  | some a =>
    cases b with
    | none => exact iff_of_false nofun id
    | some b =>
      cases ascending
      · show b.order a = .eq ↔ a.order b = .eq
        rw [Cell.order_swap a b, Ordering.swap_eq_eq]
      · exact Iff.rfl

theorem rowOrder_eq_lt_iff {targets : List (Nat × Bool)} {q r : Row} :
    rowOrder targets q r = .lt ↔ RowBefore targets q r := by
  induction targets with
  | nil => exact iff_of_false nofun id
  | cons target targets ih =>
    obtain ⟨i, ascending⟩ := target
    rw [rowOrder, RowBefore, Ordering.then_eq_lt, cellOrder_eq_lt_iff, cellOrder_eq_eq_iff, ih]

theorem rowOrder_eq_eq_iff {targets : List (Nat × Bool)} {q r : Row} :
    rowOrder targets q r = .eq ↔ RowTies targets q r := by
  unfold RowTies
  induction targets with
  | nil => exact iff_of_true rfl (List.forall_mem_nil _)
  | cons target targets ih =>
    obtain ⟨i, ascending⟩ := target
    rw [rowOrder, Ordering.then_eq_eq, cellOrder_eq_eq_iff, ih, List.forall_mem_cons]

end Table

/-! ## A linear order of rows -/

section

variable {α β : Type} {cmp : α → α → Ordering}

theorem transCmp_comap (cmp : α → α → Ordering) [Std.TransCmp cmp] (view : β → α) :
    Std.TransCmp fun a b => cmp (view a) (view b) where
  eq_swap := Std.OrientedCmp.eq_swap
  isLE_trans := Std.TransCmp.isLE_trans

/-- Missing members come last. -/
def missingLast (cmp : α → α → Ordering) : Option α → Option α → Ordering
  | some a, some b => cmp a b
  | some _, none => .lt
  | none, some _ => .gt
  | none, none => .eq

instance [Std.TransCmp cmp] : Std.TransCmp (missingLast cmp) where
  eq_swap {a b} := by
    match a, b with
    | some a, some b => exact (Std.OrientedCmp.eq_swap : cmp a b = (cmp b a).swap)
    | some _, none => rfl
    | none, some _ => rfl
    | none, none => rfl
  isLE_trans {a b c} hab hbc := by
    match a, b, c with
    | some a, some b, some c =>
      exact (Std.TransCmp.isLE_trans hab hbc : (cmp a c).isLE = true)
    | none, some _, _ => exact absurd hab nofun
    | _, none, some _ => exact absurd hbc nofun
    | some _, _, none => rfl
    | none, none, none => rfl

end

/-- The order of cells by kind, numbers and text, in a direction. -/
def directedOrder (ascending : Bool) (a b : Cell) : Ordering :=
  if ascending then a.kindOrder b else b.kindOrder a

instance (ascending : Bool) : Std.TransCmp (directedOrder ascending) := by
  cases ascending
  · exact inferInstanceAs (Std.TransCmp fun a b => Cell.kindOrder b a)
  · exact inferInstanceAs (Std.TransCmp Cell.kindOrder)

/-- The order of rows by the parts of their cells. -/
def rowKindOrder (targets : List (Nat × Bool)) (q r : Row) : Ordering :=
  match targets with
  | [] => .eq
  | (i, ascending) :: targets =>
    (missingLast (directedOrder ascending) (q.cellAt? i) (r.cellAt? i)).then
      (rowKindOrder targets q r)

instance (targets : List (Nat × Bool)) : Std.TransCmp (rowKindOrder targets) := by
  induction targets with
  | nil => exact { eq_swap := rfl, isLE_trans := fun _ _ => rfl }
  | cons target targets ih =>
    obtain ⟨i, ascending⟩ := target
    have hcell := transCmp_comap (missingLast (directedOrder ascending)) fun r : Row => r.cellAt? i
    exact inferInstanceAs (Std.TransCmp (compareLex _ (rowKindOrder targets)))

/-! ## Sorting columns of one kind -/

/-- The cells of the column that are there are of one kind. -/
def OneKind (rows : List Row) (i : Nat) : Prop :=
  ∀ q ∈ rows, ∀ r ∈ rows, ∀ a ∈ q.cellAt? i, ∀ b ∈ r.cellAt? i, a.kindName = b.kindName

section

variable {targets : List (Nat × Bool)} {rows sorted : List Row}

theorem cellOrder_eq_missingLast {ascending : Bool} {a b : Option Cell}
    (h : ∀ c ∈ a, ∀ d ∈ b, c.kindName = d.kindName) :
    Table.cellOrder ascending a b = missingLast (directedOrder ascending) a b := by
  cases a with
  | none => cases b <;> rfl
  | some a =>
    cases b with
    | none => rfl
    | some b =>
      have hkind : a.kindName = b.kindName := h a rfl b rfl
      cases ascending
      · exact Cell.order_eq_kindOrder hkind.symm
      · exact Cell.order_eq_kindOrder hkind

/-- Where the columns have cells of one kind, rows are ordered by the parts of their cells. -/
theorem rowOrder_eq_rowKindOrder (hkinds : ∀ target ∈ targets, OneKind rows target.1) {q r : Row}
    (hq : q ∈ rows) (hr : r ∈ rows) : Table.rowOrder targets q r = rowKindOrder targets q r := by
  induction targets with
  | nil => rfl
  | cons target targets ih =>
    obtain ⟨i, ascending⟩ := target
    obtain ⟨hkind, hkinds⟩ := List.forall_mem_cons.mp hkinds
    rw [Table.rowOrder, rowKindOrder, cellOrder_eq_missingLast (hkind q hq r hr), ih hkinds]

theorem rowBefore_iff (hkinds : ∀ target ∈ targets, OneKind rows target.1) {q r : Row}
    (hq : q ∈ rows) (hr : r ∈ rows) : RowBefore targets r q ↔ rowKindOrder targets q r = .gt := by
  rw [← Table.rowOrder_eq_lt_iff, rowOrder_eq_rowKindOrder hkinds hr hq,
    Std.OrientedCmp.gt_iff_lt]

theorem filter_rowTies (hkinds : ∀ target ∈ targets, OneKind rows target.1) {q : Row}
    (hq : q ∈ rows) {members : List Row} (hmembers : members ⊆ rows) :
    members.filter (RowTies targets q ·) =
      members.filter (rowKindOrder targets q · == .eq) := by
  refine List.filter_congr ?_
  intro r hr
  rw [Bool.eq_iff_iff, decide_eq_true_iff, beq_iff_eq, ← Table.rowOrder_eq_eq_iff,
    rowOrder_eq_rowKindOrder hkinds hq (hmembers hr)]

/-- **Rows have one stable reordering** that is sorted by columns of one kind. -/
theorem StablySorted.unique (hkinds : ∀ target ∈ targets, OneKind rows target.1)
    {sorted' : List Row} (h : StablySorted targets rows sorted)
    (h' : StablySorted targets rows sorted') : sorted = sorted' := by
  have hordered : ∀ {rs : List Row}, StablySorted targets rows rs →
      rs.Pairwise fun q r => (rowKindOrder targets q r != .gt) = true := by
    intro rs hrs
    refine hrs.ordered.imp_of_mem ?_
    intro q r hq hr hnot
    rw [rowBefore_iff hkinds (hrs.perm.subset hq) (hrs.perm.subset hr)] at hnot
    exact bne_iff_ne.mpr hnot
  refine eq_of_pairwise_of_filter_eq (h.perm.trans h'.perm.symm) (hordered h) (hordered h') ?_
  intro q hq
  have hmem := h.perm.subset hq
  rw [← filter_rowTies hkinds hmem h.perm.subset, ← filter_rowTies hkinds hmem h'.perm.subset,
    h.stable q hmem, h'.stable q hmem]

/-- **Sorting reorders rows stably.** -/
theorem Table.stablySorted_sortRows {t : Table} {keys : List SortKey}
    (hkinds : ∀ target ∈ t.targets keys, OneKind t.rows target.1) :
    StablySorted (t.targets keys) t.rows (t.sortRows keys) := by
  have hsort : t.sortRows keys =
      t.rows.mergeSort fun q r => rowKindOrder (t.targets keys) q r != .gt :=
    mergeSort_congr_of_mem fun q hq r hr => rowOrder_eq_rowKindOrder hkinds hq hr
  have hperm : (t.sortRows keys).Perm t.rows := List.mergeSort_perm _ _
  refine ⟨hperm, ?_, ?_⟩
  · have hpairwise := pairwise_mergeSort_cmp (rowKindOrder (t.targets keys)) t.rows
    rw [← hsort] at hpairwise
    refine hpairwise.imp_of_mem ?_
    intro q r hq hr hle
    rw [rowBefore_iff hkinds (hperm.subset hq) (hperm.subset hr)]
    exact bne_iff_ne.mp hle
  · intro q hq
    rw [filter_rowTies hkinds hq hperm.subset, filter_rowTies hkinds hq fun _ => id, hsort]
    refine filter_mergeSort_cmp (rowKindOrder (t.targets keys)) _ t.rows ?_
    intro r r' hr hr'
    -- two rows that tie with `q` tie with each other
    have htie := Std.OrientedCmp.eq_symm (beq_iff_eq.mp hr)
    rw [Std.TransCmp.congr_left htie]
    exact beq_iff_eq.mp hr'

end

end Crosstab
