import Crosstab.Proofs.Expr.Meaning

/-!
# Evaluation by columns is evaluation row by row

Evaluation goes through a whole table at once.  A case distinction splits the positions of the rows
again and again, evaluates on tables of some rows and puts the cells back at their positions; the
search for a cell that is not null ends for the whole column at once.  What is proved here is that
none of this shows in a row: if evaluation succeeds, it gives one entry for each row, and each entry
is the meaning of the expression in its row alone (`evaluate_follows`).

The invariant of the case distinction is `Branched`: the rows that no branch took have kept their
cells, and the other rows have the cell of their branch.
-/

namespace Crosstab

/-! ## Cells put at positions -/

theorem placeAt_cons (i : Nat) (rows : List Nat) (a : Cell) (values out : List Cell) :
    placeAt (i :: rows) (a :: values) out = placeAt rows values (out.set i a) := rfl

theorem length_placeAt (rows : List Nat) (values out : List Cell) :
    (placeAt rows values out).length = out.length := by
  induction rows generalizing values out with
  | nil => rfl
  | cons i rows ih =>
    cases values with
    | nil => rfl
    | cons a values => rw [placeAt_cons, ih, List.length_set]

/-- Other positions keep their cells. -/
theorem getElem?_placeAt_of_not_mem {rows : List Nat} {i : Nat} (hi : i ∉ rows)
    (values out : List Cell) : (placeAt rows values out)[i]? = out[i]? := by
  induction rows generalizing values out with
  | nil => rfl
  | cons j rows ih =>
    obtain ⟨hij, hi⟩ := List.ne_and_not_mem_of_not_mem_cons hi
    cases values with
    | nil => rfl
    | cons a values => rw [placeAt_cons, ih hi, List.getElem?_set_ne (Ne.symm hij)]

/-- A position that is there once gets the cell beside it. -/
theorem getElem?_placeAt_of_mem {rows : List Nat} {values out : List Cell} {i : Nat} {a : Cell}
    (hrows : rows.Nodup) (hmem : (i, a) ∈ rows.zip values) (hi : i < out.length) :
    (placeAt rows values out)[i]? = some a := by
  induction rows generalizing values out with
  | nil => simp at hmem
  | cons j rows ih =>
    cases values with
    | nil => simp at hmem
    | cons b values =>
      obtain ⟨hj, hrows⟩ := List.nodup_cons.mp hrows
      rw [placeAt_cons]
      rcases List.mem_cons.mp hmem with heq | hmem
      · obtain ⟨rfl, rfl⟩ := Prod.mk.inj heq
        rw [getElem?_placeAt_of_not_mem hj, List.getElem?_set_self hi]
      · exact ih hrows hmem (by rwa [List.length_set])

/-! ## Positions split by truth values -/

theorem splitHits_eq (rows : List Nat) (hits : List Truth) :
    splitHits rows hits =
      (((rows.zip hits).filter fun p => p.2 == some true).map (·.1),
        ((rows.zip hits).filter fun p => !(p.2 == some true)).map (·.1)) := by
  rw [splitHits, List.partition_eq_filter_filter]
  rfl

theorem mem_splitHits_fst {rows : List Nat} {hits : List Truth} {i : Nat} :
    i ∈ (splitHits rows hits).1 ↔ (i, some true) ∈ rows.zip hits := by
  simp [splitHits_eq]

theorem mem_splitHits_snd {rows : List Nat} {hits : List Truth} {i : Nat} :
    i ∈ (splitHits rows hits).2 ↔ ∃ t, (i, t) ∈ rows.zip hits ∧ t ≠ some true := by
  simp [splitHits_eq]

theorem filter_zip_sublist {rows : List Nat} {hits : List Truth}
    (hlen : hits.length = rows.length) (q : Nat × Truth → Bool) :
    (((rows.zip hits).filter q).map (·.1)).Sublist rows := by
  have h := (List.filter_sublist (p := q) (l := rows.zip hits)).map (·.1)
  rwa [List.map_fst_zip (Nat.le_of_eq hlen.symm)] at h

theorem splitHits_fst_sublist {rows : List Nat} {hits : List Truth}
    (hlen : hits.length = rows.length) : (splitHits rows hits).1.Sublist rows := by
  rw [splitHits_eq]
  exact filter_zip_sublist hlen _

theorem splitHits_snd_sublist {rows : List Nat} {hits : List Truth}
    (hlen : hits.length = rows.length) : (splitHits rows hits).2.Sublist rows := by
  rw [splitHits_eq]
  exact filter_zip_sublist hlen _

/-- Every position has an entry beside it. -/
theorem exists_mem_zip {α : Type} {rows : List Nat} {entries : List α}
    (hlen : entries.length = rows.length) {i : Nat} (hi : i ∈ rows) :
    ∃ a, (i, a) ∈ rows.zip entries := by
  rw [← List.map_fst_zip (Nat.le_of_eq hlen.symm)] at hi
  obtain ⟨⟨j, a⟩, hmem, rfl⟩ := List.mem_map.mp hi
  exact ⟨a, hmem⟩

/-- A position that is there once has one entry beside it. -/
theorem eq_of_mem_zip {α : Type} {rows : List Nat} {entries : List α} (hrows : rows.Nodup)
    (hlen : entries.length = rows.length) {i : Nat} {a b : α} (ha : (i, a) ∈ rows.zip entries)
    (hb : (i, b) ∈ rows.zip entries) : a = b := by
  rw [← List.map_fst_zip (Nat.le_of_eq hlen.symm)] at hrows
  exact (Prod.mk.inj (List.inj_on_of_nodup_map hrows ha hb rfl)).2

/-- No position is on both sides of a split. -/
theorem not_mem_splitHits_snd {rows : List Nat} {hits : List Truth} (hrows : rows.Nodup)
    (hlen : hits.length = rows.length) {i : Nat} (hi : i ∈ (splitHits rows hits).1) :
    i ∉ (splitHits rows hits).2 := by
  intro hmem
  obtain ⟨t, ht, hne⟩ := mem_splitHits_snd.mp hmem
  exact hne (eq_of_mem_zip hrows hlen ht (mem_splitHits_fst.mp hi))

/-! ## Case distinctions -/

section

variable {κ : Type} {C : NamedCells → κ → Truth → Prop} {row : NamedCells}

theorem Scalar.caseOf_cons_of_true {p : Predicate κ} {e : Scalar κ}
    {rest : List (Predicate κ × Scalar κ)} (hp : ∀ t, Predicate.Holds C row p t ↔ t = some true)
    (otherwise : Option (Scalar κ)) (c : Cell) :
    Scalar.CaseOf C row ((p, e) :: rest) otherwise c ↔ Scalar.Means C row e c := by
  constructor
  · intro h
    cases h with
    | taken _ he => exact he
    | left hp' ht _ => exact absurd ((hp _).mp hp') ht
  · exact fun he => .taken ((hp _).mpr rfl) he

theorem Scalar.caseOf_cons_of_ne_true {p : Predicate κ} {e : Scalar κ}
    {rest : List (Predicate κ × Scalar κ)} {s : Truth}
    (hp : ∀ t, Predicate.Holds C row p t ↔ t = s) (hs : s ≠ some true)
    (otherwise : Option (Scalar κ)) (c : Cell) :
    Scalar.CaseOf C row ((p, e) :: rest) otherwise c ↔
      Scalar.CaseOf C row rest otherwise c := by
  constructor
  · intro h
    cases h with
    | taken hp' _ => exact absurd ((hp _).mp hp').symm hs
    | left _ _ hrest => exact hrest
  · exact fun hrest => .left ((hp _).mpr rfl) hs hrest

/-- What some branches make of the cells `out` at the positions `rows`: the rows that no branch
took are `left` and have kept their cells, the other rows have the cell of their branch. -/
structure Branched (C : NamedCells → κ → Truth → Prop) (f : Frame)
    (branches : List (Predicate κ × Scalar κ)) (rows : List Nat) (out out' : List Cell)
    (left : List Nat) : Prop where
  length_eq : out'.length = out.length
  left_sublist : left.Sublist rows
  kept : ∀ i, i ∉ rows ∨ i ∈ left → out'[i]? = out[i]?
  passed : ∀ i ∈ left, ∀ otherwise c,
    Scalar.CaseOf C (f.row i) branches otherwise c ↔ Scalar.CaseOf C (f.row i) [] otherwise c
  taken : ∀ i ∈ rows, i ∉ left → ∃ a, out'[i]? = some a ∧ ∀ otherwise c,
    Scalar.CaseOf C (f.row i) branches otherwise c ↔ c = a

namespace Branched

variable {f : Frame} {branches : List (Predicate κ × Scalar κ)} {rows left : List Nat}
  {out out' : List Cell}

/-- Without branches, or without rows, nothing is done. -/
theorem nothing (h : branches = [] ∨ rows = []) : Branched C f branches rows out out rows where
  length_eq := rfl
  left_sublist := List.Sublist.refl rows
  kept _ _ := rfl
  passed := by
    rintro i hi otherwise c
    rcases h with rfl | rfl
    · rfl
    · simp at hi
  taken _ hi hnot := absurd hi hnot

/-- One branch after the other: the first one takes the rows in which its predicate is true. -/
theorem step {p : Predicate κ} {e : Scalar κ} {hits : List Truth} {values : List Cell}
    (hrows : rows.Nodup) (hlt : ∀ i ∈ rows, i < out.length)
    (hhits : (f.take rows).Follows hits fun row => Predicate.Holds C row p)
    (hvalues : (f.take (splitHits rows hits).1).Follows values fun row => Scalar.Means C row e)
    (h : Branched C f branches (splitHits rows hits).2
      (placeAt (splitHits rows hits).1 values out) out' left) :
    Branched C f ((p, e) :: branches) rows out out' left where
  length_eq := by rw [h.length_eq, length_placeAt]
  left_sublist := h.left_sublist.trans (splitHits_snd_sublist hhits.length_eq)
  kept := by
    intro i hi
    have hfst : i ∉ (splitHits rows hits).1 := by
      intro hmem
      rcases hi with hi | hi
      · exact hi ((splitHits_fst_sublist hhits.length_eq).mem hmem)
      · exact not_mem_splitHits_snd hrows hhits.length_eq hmem (h.left_sublist.mem hi)
    rw [h.kept i (hi.imp_left fun hn hmem => hn ((splitHits_snd_sublist hhits.length_eq).mem hmem)),
      getElem?_placeAt_of_not_mem hfst]
  passed := by
    intro i hi otherwise c
    obtain ⟨t, ht, hne⟩ := mem_splitHits_snd.mp (h.left_sublist.mem hi)
    rw [Scalar.caseOf_cons_of_ne_true (Frame.follows_take hhits ht) hne, h.passed i hi]
  taken := by
    intro i hi hleft
    obtain ⟨t, ht⟩ := exists_mem_zip hhits.length_eq hi
    by_cases htrue : t = some true
    · subst htrue
      have hfst := mem_splitHits_fst.mpr ht
      have hsnd := not_mem_splitHits_snd hrows hhits.length_eq hfst
      obtain ⟨a, ha⟩ := exists_mem_zip hvalues.length_eq hfst
      refine ⟨a, ?_, fun otherwise c => ?_⟩
      · rw [h.kept i (.inl hsnd)]
        exact getElem?_placeAt_of_mem (hrows.sublist (splitHits_fst_sublist hhits.length_eq)) ha
          (hlt i hi)
      · rw [Scalar.caseOf_cons_of_true (Frame.follows_take hhits ht)]
        exact Frame.follows_take hvalues ha c
    · obtain ⟨a, ha, hiff⟩ := h.taken i (mem_splitHits_snd.mpr ⟨t, ht, htrue⟩) hleft
      refine ⟨a, ha, ?_⟩
      intro otherwise c
      rw [Scalar.caseOf_cons_of_ne_true (Frame.follows_take hhits ht) htrue, hiff]

/-- All rows of a table, with nulls for the rows that no branch took. -/
theorem follows_none
    (h : Branched C f branches (List.range f.len) (List.replicate f.len .null) out' left) :
    f.Follows out' fun row => Scalar.CaseOf C row branches none where
  length_eq := by rw [h.length_eq, List.length_replicate]
  means_iff := by
    intro i a ha b
    have hi : i < f.len := by
      rw [← List.length_replicate (n := f.len) (a := Cell.null), ← h.length_eq]
      exact (List.getElem?_eq_some_iff.mp ha).1
    by_cases hleft : i ∈ left
    · rw [h.kept i (.inr hleft), List.getElem?_replicate, if_pos hi] at ha
      obtain rfl : Cell.null = a := by simpa using ha
      rw [h.passed i hleft]
      exact ⟨fun hc => by cases hc; rfl, fun hb => hb ▸ .null⟩
    · obtain ⟨c, hc, hiff⟩ := h.taken i (List.mem_range.mpr hi) hleft
      obtain rfl : c = a := by simpa [hc] using ha
      exact hiff none b

/-- All rows of a table, with a default for the rows that no branch took. -/
theorem follows_some {e : Scalar κ} {values : List Cell}
    (h : Branched C f branches (List.range f.len) (List.replicate f.len .null) out' left)
    (hvalues : (f.take left).Follows values fun row => Scalar.Means C row e) :
    f.Follows (placeAt left values out') fun row => Scalar.CaseOf C row branches (some e) where
  length_eq := by rw [length_placeAt, h.length_eq, List.length_replicate]
  means_iff := by
    intro i a ha b
    have hi : i < out'.length := by
      rw [← length_placeAt left values]
      exact (List.getElem?_eq_some_iff.mp ha).1
    by_cases hleft : i ∈ left
    · obtain ⟨c, hc⟩ := exists_mem_zip hvalues.length_eq hleft
      rw [getElem?_placeAt_of_mem (List.nodup_range.sublist h.left_sublist) hc hi] at ha
      obtain rfl : c = a := by simpa using ha
      rw [h.passed i hleft, ← Frame.follows_take hvalues hc b]
      exact ⟨fun hm => by cases hm; assumption, .default⟩
    · have hrange : i ∈ List.range f.len := by
        rwa [List.mem_range, ← List.length_replicate (n := f.len) (a := Cell.null), ← h.length_eq]
      obtain ⟨c, hc, hiff⟩ := h.taken i hrange hleft
      rw [getElem?_placeAt_of_not_mem hleft] at ha
      obtain rfl : c = a := by simpa [hc] using ha
      exact hiff (some e) b

end Branched

/-! ## The first cell that is not null -/

theorem Scalar.firstOf_cons_iff {e : Scalar κ} {rest : List (Scalar κ)} {a : Cell}
    (he : ∀ c, Scalar.Means C row e c ↔ c = a) (c : Cell) :
    Scalar.FirstOf C row (e :: rest) c ↔
      a ≠ .null ∧ c = a ∨ a = .null ∧ Scalar.FirstOf C row rest c := by
  constructor
  · intro h
    cases h with
    | here hc hne =>
      obtain rfl := (he _).mp hc
      exact .inl ⟨hne, rfl⟩
    | later hnull hrest => exact .inr ⟨((he _).mp hnull).symm, hrest⟩
  · rintro (⟨hne, rfl⟩ | ⟨rfl, hrest⟩)
    · exact .here ((he _).mpr rfl) hne
    · exact .later ((he _).mpr rfl) hrest

/-- What the search makes of the cells `out`: cells that are not null are kept, and the others
become the first cell that is not null. -/
structure Searched (C : NamedCells → κ → Truth → Prop) (f : Frame) (args : List (Scalar κ))
    (out out' : List Cell) : Prop where
  length_eq : out'.length = out.length
  means_iff : ∀ {i : Nat} {a b : Cell}, out[i]? = some a → out'[i]? = some b → ∀ c,
    (a ≠ .null ∧ c = a ∨ a = .null ∧ Scalar.FirstOf C (f.row i) args c) ↔ c = b

theorem Searched.nothing {f : Frame} {args : List (Scalar κ)} {out : List Cell}
    (h : args = [] ∨ ∀ a ∈ out, a ≠ Cell.null) : Searched C f args out out where
  length_eq := rfl
  means_iff := by
    intro i a b ha hb c
    obtain rfl : a = b := by simpa [ha] using hb
    by_cases hnull : a = .null
    · rcases h with rfl | h
      · subst hnull
        simp only [ne_eq, not_true, false_and, true_and, false_or]
        exact ⟨fun hc => by cases hc; rfl, fun hc => hc ▸ .none⟩
      · exact absurd hnull (h a (List.mem_of_getElem? ha))
    · simp [hnull]

theorem Searched.step {f : Frame} {e : Scalar κ} {rest : List (Scalar κ)}
    {values out out' : List Cell} (hlen : out.length = f.len)
    (hvalues : f.Follows values fun row => Scalar.Means C row e)
    (h : Searched C f rest (fillNulls out values) out') : Searched C f (e :: rest) out out' where
  length_eq := by
    rw [h.length_eq, fillNulls, List.length_zipWith, hvalues.length_eq, hlen, Nat.min_self]
  means_iff := by
    intro i a b ha hb c
    have hi : i < values.length := by
      rw [hvalues.length_eq, ← hlen]
      exact (List.getElem?_eq_some_iff.mp ha).1
    obtain ⟨v, hv⟩ : ∃ v, values[i]? = some v := ⟨_, List.getElem?_eq_getElem hi⟩
    have hfill : (fillNulls out values)[i]? = some (if a.isNull then v else a) := by
      simp [fillNulls, List.getElem?_zipWith, ha, hv]
    rw [← h.means_iff hfill hb c, Scalar.firstOf_cons_iff (hvalues.means_iff hv)]
    by_cases hnull : a = .null
    · simp [hnull, Cell.isNull]
    · simp [hnull, Cell.isNull]

theorem Searched.follows {f : Frame} {args : List (Scalar κ)} {out' : List Cell}
    (h : Searched C f args (List.replicate f.len .null) out') :
    f.Follows out' fun row => Scalar.FirstOf C row args where
  length_eq := by rw [h.length_eq, List.length_replicate]
  means_iff := by
    intro i a ha b
    have hi : i < f.len := by
      rw [← List.length_replicate (n := f.len) (a := Cell.null), ← h.length_eq]
      exact (List.getElem?_eq_some_iff.mp ha).1
    have hnull : (List.replicate f.len Cell.null)[i]? = some .null := by
      rw [List.getElem?_replicate, if_pos hi]
    simpa using h.means_iff hnull ha b

/-! ## Evaluation -/

/-- A way to evaluate clauses that gives an entry for each row, which is what `C` says. -/
def ClauseEval.Follows (h : ClauseEval κ) (C : NamedCells → κ → Truth → Prop) : Prop :=
  ∀ (f : Frame) (c : κ) (ts : List Truth), f.WellFormed → h c f = .ok ts →
    f.Follows ts fun row => C row c

theorem Frame.require_follows {f : Frame} (hf : f.WellFormed) {name : String} {c : Column}
    (h : f.require name = .ok c) :
    f.Follows c.values fun row => Scalar.Means C row (.column name) where
  length_eq := hf.length_values c (require_eq_ok h).1
  means_iff := by
    intro i a ha b
    obtain ⟨hc, rfl⟩ := require_eq_ok h
    have hiff := mem_row_iff hf hc (i := i) (v := b)
    rw [List.getD_eq_getElem?_getD, ha, Option.getD_some] at hiff
    exact ⟨fun hm => by cases hm with | column hmem => exact hiff.mp hmem,
      fun hb => .column (hiff.mpr hb)⟩

theorem Cell.matchPatterns_follows {f : Frame} {compile : String → Outcome Regex} {negated : Bool}
    {cs ps : List Cell} {ts : List Truth} {M N : NamedCells → Cell → Prop} (hcs : f.Follows cs M)
    (hps : f.Follows ps N) (h : Cell.matchPatterns compile negated none (cs.zip ps) = .ok ts) :
    f.Follows ts fun row t =>
      ∃ c d, M row c ∧ N row d ∧ c.matchesPattern compile d negated = .ok t := by
  rw [Cell.matchPatterns_eq_mapM _ (by simp)] at h
  refine ((hcs.zip hps).mapM h).congr ?_
  intro row t
  constructor
  · rintro ⟨c, d, hc, hd, ht⟩
    exact ⟨(c, d), ⟨hc, hd⟩, ht⟩
  · rintro ⟨⟨c, d⟩, ⟨hc, hd⟩, ht⟩
    exact ⟨c, d, hc, hd, ht⟩

variable {h : ClauseEval κ}

mutual

theorem Scalar.eval_follows (hC : h.Follows C) {f : Frame} (hf : f.WellFormed) :
    ∀ (e : Scalar κ) {vs : List Cell}, e.eval h f = .ok vs →
      f.Follows vs fun row => Scalar.Means C row e
  | .column name, vs, hv => by
    obtain ⟨c, hc, hv⟩ := bind_eq_ok_iff.mp hv
    obtain rfl := pure_eq_ok_iff.mp hv
    exact Frame.require_follows hf hc
  | .literal value, vs, hv => by
    obtain rfl : List.replicate f.len value = vs := Except.ok.inj hv
    refine (Frame.Follows.replicate value).congr ?_
    intro row c
    exact ⟨fun hm => by cases hm; rfl, fun hc => hc ▸ .literal⟩
  | .binary op l r, vs, hv => by
    obtain ⟨ls, hl, hv⟩ := bind_eq_ok_iff.mp hv
    obtain ⟨rs, hr, hv⟩ := bind_eq_ok_iff.mp hv
    have hl := Scalar.eval_follows hC hf l hl
    have hr := Scalar.eval_follows hC hf r hr
    refine ((hl.zip hr).mapM hv).congr ?_
    intro row c
    constructor
    · rintro (_ | _ | ⟨ha, hb, hc⟩)
      exact ⟨(_, _), ⟨ha, hb⟩, Cell.operate_eq_ok_iff.mpr hc⟩
    · rintro ⟨⟨a, b⟩, ⟨ha, hb⟩, hc⟩
      exact .binary ha hb (Cell.operate_eq_ok_iff.mp hc)
  | .safeDiv n d fill, vs, hv => by
    obtain ⟨ns, hn, hv⟩ := bind_eq_ok_iff.mp hv
    obtain ⟨ds, hd, hv⟩ := bind_eq_ok_iff.mp hv
    have hn := Scalar.eval_follows hC hf n hn
    have hd := Scalar.eval_follows hC hf d hd
    refine ((hn.zip hd).mapM hv).congr ?_
    intro row c
    constructor
    · intro hm
      cases hm with
      | safeDiv ha hb hc => exact ⟨(_, _), ⟨ha, hb⟩, Cell.safeDivide_eq_ok_iff.mpr hc⟩
    · rintro ⟨⟨a, b⟩, ⟨ha, hb⟩, hc⟩
      exact .safeDiv ha hb (Cell.safeDivide_eq_ok_iff.mp hc)
  | .coalesce args, vs, hv => by
    have hs := Scalar.evalFirst_searched hC hf args (by rw [List.length_replicate]) hv
    refine hs.follows.congr ?_
    intro row c
    exact ⟨fun hm => by cases hm; assumption, .coalesce⟩
  | .caseWhen branches none, vs, hv => by
    obtain ⟨⟨out, left⟩, hb, hv⟩ := bind_eq_ok_iff.mp hv
    obtain rfl := pure_eq_ok_iff.mp hv
    have hb := Scalar.evalBranches_branched hC hf branches List.nodup_range (by simp) hb
    refine hb.follows_none.congr ?_
    intro row c
    exact ⟨fun hm => by cases hm; assumption, .caseWhen⟩
  | .caseWhen branches (some e), vs, hv => by
    obtain ⟨⟨out, left⟩, hb, hv⟩ := bind_eq_ok_iff.mp hv
    have hb := Scalar.evalBranches_branched hC hf branches List.nodup_range (by simp) hb
    have hvs : f.Follows vs fun row => Scalar.CaseOf C row branches (some e) := by
      dsimp only at hv
      split at hv
      · next hempty =>
        obtain rfl := pure_eq_ok_iff.mp hv
        obtain rfl := List.isEmpty_iff.mp hempty
        exact hb.follows_some (Frame.follows_take_nil f rfl)
      · obtain ⟨values, he, hv⟩ := bind_eq_ok_iff.mp hv
        obtain rfl := pure_eq_ok_iff.mp hv
        exact hb.follows_some (Scalar.eval_follows hC (Frame.wellFormed_take hf left) e he)
    refine hvs.congr ?_
    intro row c
    exact ⟨fun hm => by cases hm; assumption, .caseWhen⟩
  | .fragment text, vs, hv => nomatch hv
termination_by structural e => e

theorem Scalar.evalFirst_searched (hC : h.Follows C) {f : Frame} (hf : f.WellFormed) :
    ∀ (args : List (Scalar κ)) {out out' : List Cell}, out.length = f.len →
      Scalar.evalFirst h f out args = .ok out' → Searched C f args out out'
  | [], out, out', _, ho => by
    obtain rfl : out = out' := Except.ok.inj ho
    exact .nothing (.inl rfl)
  | e :: rest, out, out', hlen, ho => by
    simp only [Scalar.evalFirst] at ho
    split at ho
    · next hall =>
      obtain rfl : out = out' := Except.ok.inj ho
      refine .nothing (.inr fun a ha hnull => ?_)
      simpa [hnull, Cell.isNull] using List.all_eq_true.mp hall a ha
    · obtain ⟨values, hv, ho⟩ := bind_eq_ok_iff.mp ho
      have hv := Scalar.eval_follows hC hf e hv
      have hfill : (fillNulls out values).length = f.len := by
        rw [fillNulls, List.length_zipWith, hlen, hv.length_eq, Nat.min_self]
      exact .step hlen hv (Scalar.evalFirst_searched hC hf rest hfill ho)
termination_by structural args => args

theorem Scalar.evalBranches_branched (hC : h.Follows C) {f : Frame} (hf : f.WellFormed) :
    ∀ (branches : List (Predicate κ × Scalar κ)) {rows left : List Nat} {out out' : List Cell},
      rows.Nodup → (∀ i ∈ rows, i < out.length) →
      Scalar.evalBranches h f rows out branches = .ok (out', left) →
      Branched C f branches rows out out' left
  | [], rows, left, out, out', _, _, hb => by
    obtain ⟨rfl, rfl⟩ := Prod.mk.inj (Except.ok.inj hb)
    exact .nothing (.inl rfl)
  | (p, e) :: rest, rows, left, out, out', hrows, hlt, hb => by
    simp only [Scalar.evalBranches] at hb
    split at hb
    · next hempty =>
      obtain ⟨rfl, rfl⟩ := Prod.mk.inj (Except.ok.inj hb)
      exact .nothing (.inr (List.isEmpty_iff.mp hempty))
    · obtain ⟨hits, hp, hb⟩ := bind_eq_ok_iff.mp hb
      have hp := Predicate.eval_follows hC (Frame.wellFormed_take hf rows) p hp
      have hsnd := splitHits_snd_sublist hp.length_eq
      split at hb
      · next hempty =>
        have htaken := List.isEmpty_iff.mp hempty
        refine .step hrows hlt hp (Frame.follows_take_nil f htaken) ?_
        rw [htaken]
        exact Scalar.evalBranches_branched hC hf rest (hrows.sublist hsnd)
          (fun i hi => hlt i (hsnd.mem hi)) hb
      · obtain ⟨values, he, hb⟩ := bind_eq_ok_iff.mp hb
        refine .step hrows hlt hp (Scalar.eval_follows hC (Frame.wellFormed_take hf _) e he) ?_
        refine Scalar.evalBranches_branched hC hf rest (hrows.sublist hsnd) ?_ hb
        intro i hi
        rw [length_placeAt]
        exact hlt i (hsnd.mem hi)
termination_by structural branches => branches

theorem Predicate.eval_follows (hC : h.Follows C) {f : Frame} (hf : f.WellFormed) :
    ∀ (p : Predicate κ) {ts : List Truth}, p.eval h f = .ok ts →
      f.Follows ts fun row => Predicate.Holds C row p
  | .compare op l r, ts, ht => by
    obtain ⟨ls, hl, ht⟩ := bind_eq_ok_iff.mp ht
    obtain ⟨rs, hr, ht⟩ := bind_eq_ok_iff.mp ht
    obtain rfl := pure_eq_ok_iff.mp ht
    have hl := Scalar.eval_follows hC hf l hl
    have hr := Scalar.eval_follows hC hf r hr
    refine ((hl.zip hr).map _).congr ?_
    intro row t
    constructor
    · rintro ⟨ha, hb⟩
      exact ⟨(_, _), ⟨ha, hb⟩, rfl⟩
    · rintro ⟨⟨a, b⟩, ⟨ha, hb⟩, rfl⟩
      exact .compare ha hb
  | .member e values, ts, ht => by
    obtain ⟨cs, hc, ht⟩ := bind_eq_ok_iff.mp ht
    obtain rfl := pure_eq_ok_iff.mp ht
    refine ((Scalar.eval_follows hC hf e hc).map _).congr ?_
    intro row t
    exact ⟨fun hp => by cases hp with | member he => exact ⟨_, he, rfl⟩,
      fun ⟨c, he, ht⟩ => ht ▸ .member he⟩
  | .range e low high bounds, ts, ht => by
    obtain ⟨cs, hc, ht⟩ := bind_eq_ok_iff.mp ht
    obtain rfl := pure_eq_ok_iff.mp ht
    refine ((Scalar.eval_follows hC hf e hc).map _).congr ?_
    intro row t
    exact ⟨fun hp => by cases hp with | range he => exact ⟨_, he, rfl⟩,
      fun ⟨c, he, ht⟩ => ht ▸ .range he⟩
  | .isNull e, ts, ht => by
    obtain ⟨cs, hc, ht⟩ := bind_eq_ok_iff.mp ht
    obtain rfl := pure_eq_ok_iff.mp ht
    refine ((Scalar.eval_follows hC hf e hc).map _).congr ?_
    intro row t
    exact ⟨fun hp => by cases hp with | isNull he => exact ⟨_, he, rfl⟩,
      fun ⟨c, he, ht⟩ => ht ▸ .isNull he⟩
  | .join op l r, ts, ht => by
    obtain ⟨ls, hl, ht⟩ := bind_eq_ok_iff.mp ht
    obtain ⟨rs, hr, ht⟩ := bind_eq_ok_iff.mp ht
    obtain rfl := pure_eq_ok_iff.mp ht
    have hl := Predicate.eval_follows hC hf l hl
    have hr := Predicate.eval_follows hC hf r hr
    refine ((hl.zip hr).map _).congr ?_
    intro row t
    constructor
    · intro hp
      cases hp with
      | join ha hb => exact ⟨(_, _), ⟨ha, hb⟩, rfl⟩
    · rintro ⟨⟨a, b⟩, ⟨ha, hb⟩, rfl⟩
      exact .join ha hb
  | .not p, ts, ht => by
    obtain ⟨cs, hc, ht⟩ := bind_eq_ok_iff.mp ht
    obtain rfl := pure_eq_ok_iff.mp ht
    refine ((Predicate.eval_follows hC hf p hc).map _).congr ?_
    intro row t
    exact ⟨fun hp => by cases hp with | not he => exact ⟨_, he, rfl⟩,
      fun ⟨c, he, ht⟩ => ht ▸ .not he⟩
  | .like e pattern ignoreCase negated, ts, ht => by
    obtain ⟨cs, hc, ht⟩ := bind_eq_ok_iff.mp ht
    obtain ⟨ps, hps, ht⟩ := bind_eq_ok_iff.mp ht
    have hc := Scalar.eval_follows hC hf e hc
    have hps := Scalar.eval_follows hC hf pattern hps
    refine (Cell.matchPatterns_follows hc hps ht).congr ?_
    intro row t
    exact ⟨fun hp => by cases hp with | like he hd ht => exact ⟨_, _, he, hd, ht⟩,
      fun ⟨c, d, he, hd, ht⟩ => .like he hd ht⟩
  | .regex e pattern flags negated, ts, ht => by
    obtain ⟨normal, hn, ht⟩ := bind_eq_ok_iff.mp ht
    obtain ⟨cs, hc, ht⟩ := bind_eq_ok_iff.mp ht
    obtain ⟨ps, hps, ht⟩ := bind_eq_ok_iff.mp ht
    have hc := Scalar.eval_follows hC hf e hc
    have hps := Scalar.eval_follows hC hf pattern hps
    refine (Cell.matchPatterns_follows hc hps ht).congr ?_
    intro row t
    constructor
    · intro hp
      cases hp with
      | regex hn' he hd ht =>
        obtain rfl := Except.ok.inj (hn.symm.trans hn')
        exact ⟨_, _, he, hd, ht⟩
    · rintro ⟨c, d, he, hd, ht⟩
      exact .regex hn he hd ht
  | .clause c, ts, ht => by
    refine (hC f c ts hf ht).congr ?_
    intro row t
    exact ⟨fun hp => by cases hp; assumption, .clause⟩
termination_by structural p => p

end

end

theorem noClauses_follows : ClauseEval.Follows noClauses NoClauseHolds := by
  intro _ c
  exact nomatch c

theorem Clause.eval_follows : ClauseEval.Follows Clause.eval Clause.Holds := by
  intro f c ts hf h
  obtain ⟨p, hp, h⟩ := bind_eq_ok_iff.mp h
  refine (Predicate.eval_follows noClauses_follows hf p h).congr ?_
  intro row t
  constructor
  · rintro ⟨q, hq, ht⟩
    obtain rfl := Except.ok.inj (hp.symm.trans hq)
    exact ht
  · exact fun ht => ⟨p, hp, ht⟩

/-- **Evaluation by columns is evaluation row by row.**  Where an expression or a condition is
evaluated on a well-formed table, there is one entry for each row, and it is the only meaning of the
expression in that row alone. -/
theorem evaluate_follows {f : Frame} (hf : f.WellFormed) :
    (∀ (e : Expr) (vs : List Cell), e.evaluate f = .ok vs →
      f.Follows vs fun row => Scalar.Means Clause.Holds row e) ∧
    ∀ (p : Condition) (ts : List Truth), p.evaluate f = .ok ts →
      f.Follows ts fun row => Predicate.Holds Clause.Holds row p := by
  constructor
  · intro e vs h
    exact Scalar.eval_follows Clause.eval_follows hf e h
  · intro p ts h
    exact Predicate.eval_follows Clause.eval_follows hf p h

/-- A row without an amount takes the second branch, whose scalar searches on. -/
theorem means_of_second_branch :
    Scalar.Means Clause.Holds [("amount", .null), ("rate", .int 7)]
      (.caseWhen
        [(.compare .gt (.column "amount") (.literal (.int 4)),
            .binary .mul (.column "amount") (.column "rate")),
          (.isNull (.column "amount"), .coalesce [.column "amount", .column "rate"])]
        (some (.column "rate")))
      (.int 7) := by
  have hf : Frame.WellFormed ⟨[⟨"amount", [.int 10, .int 3, .null, .int 4]⟩,
      ⟨"rate", [.int 2, .null, .int 7, .int 5]⟩], 4⟩ := by decide
  refine (Frame.Follows.means_iff (i := 2) (a := .int 7)
    ((evaluate_follows hf).1 _ [.int 20, .null, .int 7, .int 5] ?_) rfl _).mpr rfl
  rfl

end Crosstab
