import Crosstab.Proofs.Frame.Groups
import Crosstab.Proofs.Expr.Columnar

/-!
# Evaluation on a part of a table

A table is `PartOf` another one if it has the same columns and all of its rows are rows of the other
one.  An expression that is evaluated on a table can be evaluated on each part of it
(`Scalar.eval_partOf`, `Predicate.eval_partOf`), and so evaluation commutes with taking rows
(`Expr.evaluate_take`).

This is not plain, because evaluation looks at fewer rows of its own accord.  The search for a cell
that is not null may end earlier on the part, and a case distinction may have no rows left or find
no row for a branch.  What carries the induction is that it never looks at more: the rows that are
open on the part are rows that are open on the table.
-/

namespace Crosstab

namespace Frame

/-- A table whose columns and rows are those of another one. -/
structure PartOf (g f : Frame) : Prop where
  names_eq : g.names = f.names
  row_mem : ∀ j < g.len, ∃ i < f.len, g.row j = f.row i

theorem row_take_of_mem {f : Frame} {rows : List Nat} {i : Nat} (h : i ∈ rows) :
    ∃ j < (f.take rows).len, (f.take rows).row j = f.row i := by
  obtain ⟨j, hj⟩ := List.mem_iff_getElem?.mp h
  exact ⟨j, (List.getElem?_eq_some_iff.mp hj).1, row_take hj⟩

theorem partOf_take_iff {f g : Frame} {outer inner : List Nat} :
    (g.take inner).PartOf (f.take outer) ↔
      g.names = f.names ∧ ∀ j ∈ inner, ∃ i ∈ outer, g.row j = f.row i := by
  constructor
  · rintro ⟨hnames, hrow⟩
    rw [names_take, names_take] at hnames
    refine ⟨hnames, ?_⟩
    intro j hj
    obtain ⟨l, hl, hlj⟩ := row_take_of_mem (f := g) hj
    obtain ⟨k, hk, hkl⟩ := hrow l hl
    have hk : outer[k]? = some outer[k] := List.getElem?_eq_getElem hk
    exact ⟨outer[k], List.mem_of_getElem? hk, hlj.symm.trans (hkl.trans (row_take hk))⟩
  · rintro ⟨hnames, hrow⟩
    refine ⟨by rw [names_take, names_take, hnames], ?_⟩
    intro l hl
    have hl : inner[l]? = some inner[l] := List.getElem?_eq_getElem hl
    obtain ⟨i, hi, heq⟩ := hrow inner[l] (List.mem_of_getElem? hl)
    obtain ⟨k, hk, hki⟩ := row_take_of_mem (f := f) hi
    exact ⟨k, hk, (row_take hl).trans (heq.trans hki.symm)⟩

theorem partOf_take {f : Frame} {rows : List Nat} (h : ∀ i ∈ rows, i < f.len) :
    (f.take rows).PartOf f where
  names_eq := names_take f rows
  row_mem := by
    intro j hj
    have hj : rows[j]? = some rows[j] := List.getElem?_eq_getElem hj
    exact ⟨rows[j], h _ (List.mem_of_getElem? hj), row_take hj⟩

theorem PartOf.exists_require {f g : Frame} (h : g.PartOf f) {name : String} {c : Column}
    (hc : f.require name = .ok c) : ∃ d, g.require name = .ok d :=
  Frame.exists_require (h.names_eq ▸ mem_names_of_require hc)

namespace Follows

variable {α : Type} {f g : Frame} {M : NamedCells → α → Prop} {as bs : List α}

theorem exists_getElem? (h : f.Follows as M) {i : Nat} (hi : i < f.len) :
    ∃ a, as[i]? = some a := by
  rw [← h.length_eq] at hi
  exact ⟨as[i], List.getElem?_eq_getElem hi⟩

/-- Rows that are equal have equal entries. -/
theorem eq_of_row_eq (h : f.Follows as M) (k : g.Follows bs M) {i j : Nat} {a b : α}
    (hrow : g.row j = f.row i) (ha : as[i]? = some a) (hb : bs[j]? = some b) : b = a := by
  rw [← h.means_iff ha, ← hrow, k.means_iff hb]

/-- The entries of a part are entries of the table. -/
theorem subset (h : f.Follows as M) (k : g.Follows bs M) (hgf : g.PartOf f) : bs ⊆ as := by
  intro b hb
  obtain ⟨j, hj⟩ := List.mem_iff_getElem?.mp hb
  have hjlen : j < g.len := by
    rw [← k.length_eq]
    exact (List.getElem?_eq_some_iff.mp hj).1
  obtain ⟨i, hi, hrow⟩ := hgf.row_mem j hjlen
  obtain ⟨a, ha⟩ := h.exists_getElem? hi
  obtain rfl := h.eq_of_row_eq k hrow ha hj
  exact List.mem_of_getElem? ha

/-- The entries of some rows are the entries at their positions. -/
theorem take_eq {rows : List Nat} (h : f.Follows as M) (k : (f.take rows).Follows bs M)
    (hrows : ∀ i ∈ rows, i < f.len) (d : α) : bs = rows.map fun i => as.getD i d := by
  refine List.ext_getElem? ?_
  intro j
  rw [List.getElem?_map]
  cases hj : rows[j]? with
  | none =>
    rw [List.getElem?_eq_none_iff] at hj
    exact List.getElem?_eq_none (by rw [k.length_eq]; exact hj)
  | some i =>
    obtain ⟨a, ha⟩ := h.exists_getElem? (hrows i (List.mem_of_getElem? hj))
    obtain ⟨b, hb⟩ := k.exists_getElem? (List.getElem?_eq_some_iff.mp hj).1
    obtain rfl := h.eq_of_row_eq k (row_take hj) ha hb
    simp [hb, List.getD_eq_getElem?_getD, ha]

end Follows

end Frame

section

variable {κ : Type} {C : NamedCells → κ → Truth → Prop} {h : ClauseEval κ}

/-- A way to evaluate clauses that succeeds on each part of a table on which it succeeds. -/
def ClauseEval.Restricts (h : ClauseEval κ) : Prop :=
  ∀ (f g : Frame) (c : κ) (ts : List Truth), f.WellFormed → g.WellFormed → g.PartOf f →
    h c f = .ok ts → ∃ us, h c g = .ok us

/-- A step that succeeds for all entries of a table succeeds for those of a part. -/
theorem Frame.Follows.exists_mapM {α β : Type} {f g : Frame} {M : NamedCells → α → Prop}
    {as bs : List α} {step : α → Outcome β} {cs : List β} (h : f.Follows as M)
    (k : g.Follows bs M) (hgf : g.PartOf f) (hcs : as.mapM step = .ok cs) :
    ∃ ds, bs.mapM step = .ok ds := by
  refine exists_mapM_eq_ok ?_
  intro b hb
  obtain ⟨c, _, hc⟩ := exists_mem_of_mapM_eq_ok hcs (h.subset k hgf hb)
  exact ⟨c, hc⟩

/-- Filling nulls is done row by row. -/
theorem Frame.Follows.fillNulls {f : Frame} {M N : NamedCells → Cell → Prop}
    {out values : List Cell} (h : f.Follows out M) (k : f.Follows values N) :
    f.Follows (Crosstab.fillNulls out values) fun row c =>
      ∃ p : Cell × Cell, (M row p.1 ∧ N row p.2) ∧ c = if p.1.isNull then p.2 else p.1 := by
  have heq : Crosstab.fillNulls out values =
      (out.zip values).map fun p => if p.1.isNull then p.2 else p.1 := by
    rw [Crosstab.fillNulls, ← List.map_uncurry_zip_eq_zipWith]
    rfl
  rw [heq]
  exact (h.zip k).map _

/-- The rows that a predicate leaves open on a part are left open on the table, and so are those
that it takes. -/
theorem splitHits_partOf {f g : Frame} {outer inner : List Nat} {p : Predicate κ}
    {hits hits' : List Truth} (hpart : (g.take inner).PartOf (f.take outer))
    (h : (f.take outer).Follows hits fun row => Predicate.Holds C row p)
    (k : (g.take inner).Follows hits' fun row => Predicate.Holds C row p) :
    (g.take (splitHits inner hits').1).PartOf (f.take (splitHits outer hits).1) ∧
      (g.take (splitHits inner hits').2).PartOf (f.take (splitHits outer hits).2) := by
  obtain ⟨hnames, hrow⟩ := Frame.partOf_take_iff.mp hpart
  have hsame : ∀ {j : Nat} {t : Truth}, (j, t) ∈ inner.zip hits' →
      ∃ i, (i, t) ∈ outer.zip hits ∧ g.row j = f.row i := by
    intro j t hj
    obtain ⟨i, hi, heq⟩ := hrow j (List.of_mem_zip hj).1
    obtain ⟨u, hu⟩ := exists_mem_zip h.length_eq hi
    have ht := (Frame.follows_take k hj t).mpr rfl
    rw [heq, Frame.follows_take h hu] at ht
    exact ⟨i, ht ▸ hu, heq⟩
  rw [Frame.partOf_take_iff, Frame.partOf_take_iff]
  refine ⟨⟨hnames, ?_⟩, hnames, ?_⟩
  · intro j hj
    obtain ⟨i, hi, heq⟩ := hsame (mem_splitHits_fst.mp hj)
    exact ⟨i, mem_splitHits_fst.mpr hi, heq⟩
  · intro j hj
    obtain ⟨t, ht, hne⟩ := mem_splitHits_snd.mp hj
    obtain ⟨i, hi, heq⟩ := hsame ht
    exact ⟨i, mem_splitHits_snd.mpr ⟨t, hi, hne⟩, heq⟩

theorem eq_nil_of_partOf_take {f g : Frame} {inner : List Nat}
    (h : (g.take inner).PartOf (f.take [])) : inner = [] := by
  by_contra hne
  obtain ⟨_, hi, _⟩ := h.row_mem 0 (by simpa [Frame.take_len] using List.length_pos_iff.mpr hne)
  exact absurd hi (by simp [Frame.take_len])

theorem Cell.matchPatterns_partOf {f g : Frame} {compile : String → Outcome Regex} {negated : Bool}
    {cs ps cs' ps' : List Cell} {ts : List Truth} {M N : NamedCells → Cell → Prop}
    (hcs : f.Follows cs M) (hps : f.Follows ps N) (hcs' : g.Follows cs' M)
    (hps' : g.Follows ps' N) (hgf : g.PartOf f)
    (h : Cell.matchPatterns compile negated none (cs.zip ps) = .ok ts) :
    ∃ us, Cell.matchPatterns compile negated none (cs'.zip ps') = .ok us := by
  rw [Cell.matchPatterns_eq_mapM _ (by simp)] at h ⊢
  exact (hcs.zip hps).exists_mapM (hcs'.zip hps') hgf h

mutual

theorem Scalar.eval_partOf (hC : h.Follows C) (hR : h.Restricts) :
    ∀ (e : Scalar κ) {f g : Frame} {vs : List Cell}, f.WellFormed → g.WellFormed → g.PartOf f →
      e.eval h f = .ok vs → ∃ ws, e.eval h g = .ok ws
  | .column name, f, g, vs, hf, hg, hgf, hv => by
    obtain ⟨c, hc, _⟩ := bind_eq_ok_iff.mp hv
    obtain ⟨d, hd⟩ := hgf.exists_require hc
    exact ⟨d.values, bind_eq_ok_iff.mpr ⟨d, hd, rfl⟩⟩
  | .literal value, f, g, vs, hf, hg, hgf, hv => ⟨_, rfl⟩
  | .binary op l r, f, g, vs, hf, hg, hgf, hv => by
    obtain ⟨ls, hl, hv⟩ := bind_eq_ok_iff.mp hv
    obtain ⟨rs, hr, hv⟩ := bind_eq_ok_iff.mp hv
    obtain ⟨ls', hl'⟩ := Scalar.eval_partOf hC hR l hf hg hgf hl
    obtain ⟨rs', hr'⟩ := Scalar.eval_partOf hC hR r hf hg hgf hr
    have hzip := (Scalar.eval_follows hC hf l hl).zip (Scalar.eval_follows hC hf r hr)
    have hzip' := (Scalar.eval_follows hC hg l hl').zip (Scalar.eval_follows hC hg r hr')
    obtain ⟨ws, hw⟩ := hzip.exists_mapM hzip' hgf hv
    exact ⟨ws, bind_eq_ok_iff.mpr ⟨ls', hl', bind_eq_ok_iff.mpr ⟨rs', hr', hw⟩⟩⟩
  | .safeDiv n d fill, f, g, vs, hf, hg, hgf, hv => by
    obtain ⟨ns, hn, hv⟩ := bind_eq_ok_iff.mp hv
    obtain ⟨ds, hd, hv⟩ := bind_eq_ok_iff.mp hv
    obtain ⟨ns', hn'⟩ := Scalar.eval_partOf hC hR n hf hg hgf hn
    obtain ⟨ds', hd'⟩ := Scalar.eval_partOf hC hR d hf hg hgf hd
    have hzip := (Scalar.eval_follows hC hf n hn).zip (Scalar.eval_follows hC hf d hd)
    have hzip' := (Scalar.eval_follows hC hg n hn').zip (Scalar.eval_follows hC hg d hd')
    obtain ⟨ws, hw⟩ := hzip.exists_mapM hzip' hgf hv
    exact ⟨ws, bind_eq_ok_iff.mpr ⟨ns', hn', bind_eq_ok_iff.mpr ⟨ds', hd', hw⟩⟩⟩
  | .coalesce args, f, g, vs, hf, hg, hgf, hv => by
    have hout := Frame.Follows.replicate (f := f) Cell.null
    have hout' := Frame.Follows.replicate (f := g) Cell.null
    exact Scalar.evalFirst_partOf hC hR args hf hg hgf hout hout' hv
  | .caseWhen branches none, f, g, vs, hf, hg, hgf, hv => by
    obtain ⟨⟨out, left⟩, hb, hv⟩ := bind_eq_ok_iff.mp hv
    obtain ⟨out', left', hb', _⟩ := Scalar.evalBranches_partOf hC hR branches hf hg
      (by rwa [Frame.take_range hf, Frame.take_range hg]) (List.replicate g.len .null) hb
    exact ⟨out', bind_eq_ok_iff.mpr ⟨(out', left'), hb', rfl⟩⟩
  | .caseWhen branches (some e), f, g, vs, hf, hg, hgf, hv => by
    obtain ⟨⟨out, left⟩, hb, hv⟩ := bind_eq_ok_iff.mp hv
    obtain ⟨out', left', hb', hleft⟩ := Scalar.evalBranches_partOf hC hR branches hf hg
      (by rwa [Frame.take_range hf, Frame.take_range hg]) (List.replicate g.len .null) hb
    suffices ∃ ws, (if left'.isEmpty then pure out'
        else do return placeAt left' (← e.eval h (g.take left')) out' : Outcome (List Cell)) =
          .ok ws by
      obtain ⟨ws, hw⟩ := this
      exact ⟨ws, bind_eq_ok_iff.mpr ⟨(out', left'), hb', hw⟩⟩
    split
    · exact ⟨out', rfl⟩
    · next hne =>
      dsimp only at hv
      split at hv
      · next hempty =>
        rw [List.isEmpty_iff.mp hempty] at hleft
        exact absurd (eq_nil_of_partOf_take hleft) (by simpa using hne)
      · obtain ⟨values, he, _⟩ := bind_eq_ok_iff.mp hv
        obtain ⟨values', he'⟩ := Scalar.eval_partOf hC hR e (Frame.wellFormed_take hf left)
          (Frame.wellFormed_take hg left') hleft he
        exact ⟨_, bind_eq_ok_iff.mpr ⟨values', he', rfl⟩⟩
  | .fragment text, f, g, vs, hf, hg, hgf, hv => nomatch hv
termination_by structural e => e

/-- The cells that are searched for follow one relation `M` on both tables, so those of the part are
filled when those of the table are. -/
theorem Scalar.evalFirst_partOf (hC : h.Follows C) (hR : h.Restricts) :
    ∀ (args : List (Scalar κ)) {f g : Frame} {out out' vs : List Cell}
      {M : NamedCells → Cell → Prop}, f.WellFormed → g.WellFormed → g.PartOf f →
      f.Follows out M → g.Follows out' M → Scalar.evalFirst h f out args = .ok vs →
      ∃ ws, Scalar.evalFirst h g out' args = .ok ws
  | [], f, g, out, out', vs, M, hf, hg, hgf, hout, hout', hv => ⟨out', rfl⟩
  | e :: rest, f, g, out, out', vs, M, hf, hg, hgf, hout, hout', hv => by
    simp only [Scalar.evalFirst] at hv ⊢
    split
    · exact ⟨out', rfl⟩
    · next hopen' =>
      have hopen : ¬ (out.all fun c => !c.isNull) = true := by
        intro hall
        refine hopen' (List.all_eq_true.mpr ?_)
        intro c hc
        exact List.all_eq_true.mp hall c (hout.subset hout' hgf hc)
      rw [if_neg hopen] at hv
      obtain ⟨values, he, hv⟩ := bind_eq_ok_iff.mp hv
      obtain ⟨values', he'⟩ := Scalar.eval_partOf hC hR e hf hg hgf he
      have hfill := hout.fillNulls (Scalar.eval_follows hC hf e he)
      have hfill' := hout'.fillNulls (Scalar.eval_follows hC hg e he')
      obtain ⟨ws, hw⟩ := Scalar.evalFirst_partOf hC hR rest hf hg hgf hfill hfill' hv
      exact ⟨ws, bind_eq_ok_iff.mpr ⟨values', he', hw⟩⟩
termination_by structural args => args

theorem Scalar.evalBranches_partOf (hC : h.Follows C) (hR : h.Restricts) :
    ∀ (branches : List (Predicate κ × Scalar κ)) {f g : Frame} {rows left rows' : List Nat}
      {out vs : List Cell}, f.WellFormed → g.WellFormed →
      (g.take rows').PartOf (f.take rows) → ∀ (out' : List Cell),
      Scalar.evalBranches h f rows out branches = .ok (vs, left) →
      ∃ ws left', Scalar.evalBranches h g rows' out' branches = .ok (ws, left') ∧
        (g.take left').PartOf (f.take left)
  | [], f, g, rows, left, rows', out, vs, hf, hg, hgf, out', hb => by
    obtain ⟨_, rfl⟩ := Prod.mk.inj (Except.ok.inj hb)
    exact ⟨out', rows', rfl, hgf⟩
  | (p, e) :: rest, f, g, rows, left, rows', out, vs, hf, hg, hgf, out', hb => by
    simp only [Scalar.evalBranches] at hb ⊢
    split
    · next hempty' =>
      -- no row of the part is open, so it has nothing left either
      refine ⟨out', rows', rfl, Frame.partOf_take_iff.mpr ⟨(Frame.partOf_take_iff.mp hgf).1, ?_⟩⟩
      simp [List.isEmpty_iff.mp hempty']
    · next hne' =>
      have hne : ¬ rows.isEmpty = true := by
        intro hempty
        rw [List.isEmpty_iff.mp hempty] at hgf
        exact hne' (List.isEmpty_iff.mpr (eq_nil_of_partOf_take hgf))
      rw [if_neg hne] at hb
      obtain ⟨hits, hp, hb⟩ := bind_eq_ok_iff.mp hb
      obtain ⟨hits', hp'⟩ := Predicate.eval_partOf hC hR p (Frame.wellFormed_take hf rows)
        (Frame.wellFormed_take hg rows') hgf hp
      obtain ⟨htaken, hleft⟩ := splitHits_partOf hgf
        (Predicate.eval_follows hC (Frame.wellFormed_take hf rows) p hp)
        (Predicate.eval_follows hC (Frame.wellFormed_take hg rows') p hp')
      rw [hp', ok_bind]
      split at hb
      · next hempty =>
        rw [List.isEmpty_iff.mp hempty] at htaken
        rw [if_pos (List.isEmpty_iff.mpr (eq_nil_of_partOf_take htaken))]
        exact Scalar.evalBranches_partOf hC hR rest hf hg hleft out' hb
      · obtain ⟨values, he, hb⟩ := bind_eq_ok_iff.mp hb
        obtain ⟨values', he'⟩ := Scalar.eval_partOf hC hR e (Frame.wellFormed_take hf _)
          (Frame.wellFormed_take hg _) htaken he
        split
        · exact Scalar.evalBranches_partOf hC hR rest hf hg hleft out' hb
        · rw [he', ok_bind]
          exact Scalar.evalBranches_partOf hC hR rest hf hg hleft _ hb
termination_by structural branches => branches

theorem Predicate.eval_partOf (hC : h.Follows C) (hR : h.Restricts) :
    ∀ (p : Predicate κ) {f g : Frame} {ts : List Truth}, f.WellFormed → g.WellFormed →
      g.PartOf f → p.eval h f = .ok ts → ∃ us, p.eval h g = .ok us
  | .compare op l r, f, g, ts, hf, hg, hgf, ht => by
    obtain ⟨ls, hl, ht⟩ := bind_eq_ok_iff.mp ht
    obtain ⟨rs, hr, _⟩ := bind_eq_ok_iff.mp ht
    obtain ⟨ls', hl'⟩ := Scalar.eval_partOf hC hR l hf hg hgf hl
    obtain ⟨rs', hr'⟩ := Scalar.eval_partOf hC hR r hf hg hgf hr
    exact ⟨_, bind_eq_ok_iff.mpr ⟨ls', hl', bind_eq_ok_iff.mpr ⟨rs', hr', rfl⟩⟩⟩
  | .member e values, f, g, ts, hf, hg, hgf, ht => by
    obtain ⟨cs, hc, _⟩ := bind_eq_ok_iff.mp ht
    obtain ⟨cs', hc'⟩ := Scalar.eval_partOf hC hR e hf hg hgf hc
    exact ⟨_, bind_eq_ok_iff.mpr ⟨cs', hc', rfl⟩⟩
  | .range e low high bounds, f, g, ts, hf, hg, hgf, ht => by
    obtain ⟨cs, hc, _⟩ := bind_eq_ok_iff.mp ht
    obtain ⟨cs', hc'⟩ := Scalar.eval_partOf hC hR e hf hg hgf hc
    exact ⟨_, bind_eq_ok_iff.mpr ⟨cs', hc', rfl⟩⟩
  | .isNull e, f, g, ts, hf, hg, hgf, ht => by
    obtain ⟨cs, hc, _⟩ := bind_eq_ok_iff.mp ht
    obtain ⟨cs', hc'⟩ := Scalar.eval_partOf hC hR e hf hg hgf hc
    exact ⟨_, bind_eq_ok_iff.mpr ⟨cs', hc', rfl⟩⟩
  | .join op l r, f, g, ts, hf, hg, hgf, ht => by
    obtain ⟨ls, hl, ht⟩ := bind_eq_ok_iff.mp ht
    obtain ⟨rs, hr, _⟩ := bind_eq_ok_iff.mp ht
    obtain ⟨ls', hl'⟩ := Predicate.eval_partOf hC hR l hf hg hgf hl
    obtain ⟨rs', hr'⟩ := Predicate.eval_partOf hC hR r hf hg hgf hr
    exact ⟨_, bind_eq_ok_iff.mpr ⟨ls', hl', bind_eq_ok_iff.mpr ⟨rs', hr', rfl⟩⟩⟩
  | .not p, f, g, ts, hf, hg, hgf, ht => by
    obtain ⟨us, hu, _⟩ := bind_eq_ok_iff.mp ht
    obtain ⟨us', hu'⟩ := Predicate.eval_partOf hC hR p hf hg hgf hu
    exact ⟨_, bind_eq_ok_iff.mpr ⟨us', hu', rfl⟩⟩
  | .like e pattern ignoreCase negated, f, g, ts, hf, hg, hgf, ht => by
    obtain ⟨cs, hc, ht⟩ := bind_eq_ok_iff.mp ht
    obtain ⟨ps, hps, ht⟩ := bind_eq_ok_iff.mp ht
    obtain ⟨cs', hc'⟩ := Scalar.eval_partOf hC hR e hf hg hgf hc
    obtain ⟨ps', hps'⟩ := Scalar.eval_partOf hC hR pattern hf hg hgf hps
    obtain ⟨us, hu⟩ := Cell.matchPatterns_partOf (Scalar.eval_follows hC hf e hc)
      (Scalar.eval_follows hC hf pattern hps) (Scalar.eval_follows hC hg e hc')
      (Scalar.eval_follows hC hg pattern hps') hgf ht
    exact ⟨us, bind_eq_ok_iff.mpr ⟨cs', hc', bind_eq_ok_iff.mpr ⟨ps', hps', hu⟩⟩⟩
  | .regex e pattern flags negated, f, g, ts, hf, hg, hgf, ht => by
    obtain ⟨normal, hn, ht⟩ := bind_eq_ok_iff.mp ht
    obtain ⟨cs, hc, ht⟩ := bind_eq_ok_iff.mp ht
    obtain ⟨ps, hps, ht⟩ := bind_eq_ok_iff.mp ht
    obtain ⟨cs', hc'⟩ := Scalar.eval_partOf hC hR e hf hg hgf hc
    obtain ⟨ps', hps'⟩ := Scalar.eval_partOf hC hR pattern hf hg hgf hps
    obtain ⟨us, hu⟩ := Cell.matchPatterns_partOf (Scalar.eval_follows hC hf e hc)
      (Scalar.eval_follows hC hf pattern hps) (Scalar.eval_follows hC hg e hc')
      (Scalar.eval_follows hC hg pattern hps') hgf ht
    exact ⟨us, bind_eq_ok_iff.mpr ⟨normal, hn, bind_eq_ok_iff.mpr
      ⟨cs', hc', bind_eq_ok_iff.mpr ⟨ps', hps', hu⟩⟩⟩⟩
  | .clause c, f, g, ts, hf, hg, hgf, ht => hR f g c ts hf hg hgf ht
termination_by structural p => p

end

end

theorem noClauses_restricts : ClauseEval.Restricts noClauses := by
  intro _ _ c
  exact nomatch c

theorem Clause.eval_restricts : ClauseEval.Restricts Clause.eval := by
  intro f g c ts hf hg hgf h
  obtain ⟨p, hp, h⟩ := bind_eq_ok_iff.mp h
  obtain ⟨us, hu⟩ := Predicate.eval_partOf noClauses_follows noClauses_restricts p hf hg hgf h
  exact ⟨us, bind_eq_ok_iff.mpr ⟨p, hp, hu⟩⟩

/-- **Evaluation commutes with taking rows.**  What is evaluated on a table can be evaluated on some
of its rows, and gives the cells of these rows. -/
theorem Expr.evaluate_take {f : Frame} (hf : f.WellFormed) {e : Expr} {vs : List Cell}
    (h : e.evaluate f = .ok vs) {rows : List Nat} (hrows : ∀ i ∈ rows, i < f.len) :
    e.evaluate (f.take rows) = .ok (rows.map fun i => vs.getD i .null) := by
  have hg := Frame.wellFormed_take hf rows
  obtain ⟨ws, hw⟩ := Scalar.eval_partOf Clause.eval_follows Clause.eval_restricts e hf hg
    (Frame.partOf_take hrows) h
  rw [Expr.evaluate, hw, (Scalar.eval_follows Clause.eval_follows hf e h).take_eq
    (Scalar.eval_follows Clause.eval_follows hg e hw) hrows .null]

end Crosstab
