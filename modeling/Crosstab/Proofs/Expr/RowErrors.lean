import Crosstab.Proofs.Clause.Parsed
import Crosstab.Proofs.Expr.Part

/-!
# Errors of evaluation are errors of rows

Evaluation goes through a whole table and fails as a whole.  Still a row fails for itself only: an
expression can be evaluated over a table with rows if and only if it can be evaluated over each of
its rows taken alone (`evaluates_iff_row_by_row`).  One form is left out, the search for the first
cell that is not null, which evaluates an argument over all rows as soon as one of them is open.

One direction is that evaluation restricts to parts of a table (`Scalar.eval_partOf`).  The other
one is proved here.  What carries it through a case distinction is that a branch sees a row of the
table exactly if it sees it in the table of this row alone (`Scalar.evalBranches_of_rows`), so a row
meets no predicate behind the branch that took it, and no scalar but that of this branch
(`Scalar.eval_caseWhen_row`).
-/

namespace Crosstab

variable {κ : Type}

/-! ## Expressions that look at every row for itself -/

mutual

/-- No part of the scalar searches for the first cell that is not null. -/
def Scalar.Uncoalesced : Scalar κ → Prop
  | .column _ => True
  | .literal _ => True
  | .binary _ l r => l.Uncoalesced ∧ r.Uncoalesced
  | .safeDiv n d _ => n.Uncoalesced ∧ d.Uncoalesced
  | .coalesce _ => False
  | .caseWhen branches none => Scalar.UncoalescedBranches branches
  | .caseWhen branches (some e) => Scalar.UncoalescedBranches branches ∧ e.Uncoalesced
  | .fragment _ => True
termination_by structural e => e

/-- No part of the branches searches for the first cell that is not null. -/
def Scalar.UncoalescedBranches : List (Predicate κ × Scalar κ) → Prop
  | [] => True
  | (p, e) :: rest => (p.Uncoalesced ∧ e.Uncoalesced) ∧ Scalar.UncoalescedBranches rest
termination_by structural branches => branches

/-- No part of the predicate searches for the first cell that is not null. -/
def Predicate.Uncoalesced : Predicate κ → Prop
  | .compare _ l r => l.Uncoalesced ∧ r.Uncoalesced
  | .member e _ => e.Uncoalesced
  | .range e _ _ _ => e.Uncoalesced
  | .isNull e => e.Uncoalesced
  | .join _ l r => l.Uncoalesced ∧ r.Uncoalesced
  | .not p => p.Uncoalesced
  | .like e pattern _ _ => e.Uncoalesced ∧ pattern.Uncoalesced
  | .regex e pattern _ _ => e.Uncoalesced ∧ pattern.Uncoalesced
  | .clause _ => True
termination_by structural p => p

end

theorem Scalar.Arithmetic.uncoalesced : ∀ {e : Scalar κ}, e.Arithmetic → e.Uncoalesced
  | .column _, _ => trivial
  | .literal _, _ => trivial
  | .binary _ _ _, ⟨_, hl, hr⟩ => ⟨hl.uncoalesced, hr.uncoalesced⟩
termination_by structural e => e

/-- What clauses can say looks at every row for itself. -/
theorem Predicate.Elementary.uncoalesced : ∀ {p : Predicate κ}, p.Elementary → p.Uncoalesced
  | .compare _ _ _, ⟨hl, hr⟩ => ⟨hl.uncoalesced, hr.uncoalesced⟩
  | .member _ _, he => Scalar.Arithmetic.uncoalesced he
  | .range _ _ _ _, he => Scalar.Arithmetic.uncoalesced he
  | .isNull _, he => Scalar.Arithmetic.uncoalesced he
  | .join _ l r, ⟨hl, hr⟩ => ⟨uncoalesced (p := l) hl, uncoalesced (p := r) hr⟩
  | .not p, hp => uncoalesced (p := p) hp
  | .like _ _ _ _, ⟨he, hpattern⟩ => ⟨he.uncoalesced, hpattern.uncoalesced⟩
termination_by structural p => p

/-! ## Row by row -/

namespace Frame

variable {α : Type} {f : Frame} {run : Frame → Outcome α}

/-- Something can be done with each row of a table, taken alone. -/
def ByRow (f : Frame) (run : Frame → Outcome α) : Prop :=
  ∀ i < f.len, ∃ a, run (f.take [i]) = .ok a

/-- A row of some rows is a row of the table. -/
theorem take_take_singleton (f : Frame) {rows : List Nat} {i j : Nat} (h : rows[j]? = some i) :
    (f.take rows).take [j] = f.take [i] := by
  have hj : j < rows.length := (List.getElem?_eq_some_iff.mp h).1
  rw [take_take f (by simpa using hj), List.map_singleton, List.getD_eq_getElem?_getD, h,
    Option.getD_some]

theorem take_self_singleton (f : Frame) (i : Nat) : (f.take [i]).take [0] = f.take [i] :=
  take_take_singleton f rfl

theorem byRow_take {rows : List Nat} (h : ∀ i ∈ rows, ∃ a, run (f.take [i]) = .ok a) :
    (f.take rows).ByRow run := by
  intro j hj
  have hget : rows[j]? = some rows[j] := List.getElem?_eq_getElem hj
  rw [take_take_singleton f hget]
  exact h _ (List.mem_of_getElem? hget)

/-- Of two steps that can be made with each row, each can be made. -/
theorem ByRow.both {α β γ : Type} {x : Frame → Outcome α} {y : Frame → Outcome β}
    {z : α → β → Outcome γ} (h : f.ByRow fun g => x g >>= fun a => y g >>= z a) :
    f.ByRow x ∧ f.ByRow y := by
  constructor
  all_goals
    intro i hi
    obtain ⟨c, hc⟩ := h i hi
    obtain ⟨a, b, ha, hb, _⟩ := bind_both_eq_ok_iff.mp hc
  · exact ⟨a, ha⟩
  · exact ⟨b, hb⟩

/-- A step that is followed by another one with each row can be made with each row. -/
theorem ByRow.one {α β : Type} {x : Frame → Outcome α} {z : α → Outcome β}
    (h : f.ByRow fun g => x g >>= z) : f.ByRow x := by
  intro i hi
  obtain ⟨_, hb⟩ := h i hi
  obtain ⟨a, ha, _⟩ := bind_eq_ok_iff.mp hb
  exact ⟨a, ha⟩

/-- What can be done with the first row of a table with rows. -/
theorem ByRow.first (h : f.ByRow run) (hlen : 0 < f.len) : ∃ a, run (f.take [0]) = .ok a :=
  h 0 hlen

/-- A step that can be made with the entry of each row alone can be made with all entries. -/
theorem Follows.exists_mapM_of_rows {β : Type} {M : NamedCells → α → Prop} {as : List α}
    {step : α → Outcome β} (h : f.Follows as M)
    (hrows : ∀ i < f.len, ∃ bs cs, (f.take [i]).Follows bs M ∧ bs.mapM step = .ok cs) :
    ∃ cs, as.mapM step = .ok cs := by
  refine exists_mapM_eq_ok ?_
  intro a ha
  obtain ⟨i, hi⟩ := List.mem_iff_getElem?.mp ha
  have hlt : i < f.len := by
    rw [← h.length_eq]
    exact (List.getElem?_eq_some_iff.mp hi).1
  obtain ⟨bs, cs, hbs, hcs⟩ := hrows i hlt
  obtain ⟨b, hb⟩ := hbs.exists_getElem? (Nat.zero_lt_one : 0 < (f.take [i]).len)
  obtain rfl := h.eq_of_row_eq hbs (row_take rfl) hi hb
  obtain ⟨c, _, hc⟩ := exists_mem_of_mapM_eq_ok hcs (List.mem_of_getElem? hb)
  exact ⟨c, hc⟩

/-- The only entry of a row. -/
theorem Follows.exists_eq_singleton {M : NamedCells → α → Prop} {as : List α} {i : Nat}
    (h : (f.take [i]).Follows as M) : ∃ a, as = [a] :=
  List.length_eq_one_iff.mp h.length_eq

end Frame

/-! ## Case distinctions over one row -/

section

variable {h : ClauseEval κ} {f : Frame} {i : Nat} {p : Predicate κ} {e : Scalar κ} {t : Truth}
  {rest : List (Predicate κ × Scalar κ)}

/-- One branch after the other, where rows are open. -/
theorem Scalar.evalBranches_cons {rows : List Nat} {hits : List Truth} (hrows : rows ≠ [])
    (hp : p.eval h (f.take rows) = .ok hits) (out : List Cell) :
    Scalar.evalBranches h f rows out ((p, e) :: rest) =
      if (splitHits rows hits).1 = [] then
        Scalar.evalBranches h f (splitHits rows hits).2 out rest
      else (e.eval h (f.take (splitHits rows hits).1) >>= fun values =>
        Scalar.evalBranches h f (splitHits rows hits).2
          (placeAt (splitHits rows hits).1 values out) rest) := by
  simp only [Scalar.evalBranches, List.isEmpty_iff, if_neg hrows, hp, ok_bind]

/-- A branch that takes the row leaves nothing to the others. -/
theorem Scalar.evalBranches_row_of_true (hp : p.eval h (f.take [i]) = .ok [some true])
    (out : List Cell) :
    Scalar.evalBranches h (f.take [i]) [0] out ((p, e) :: rest) = (do
      let values ← e.eval h (f.take [i])
      return (placeAt [0] values out, [])) := by
  have hrest : ∀ out' : List Cell,
      Scalar.evalBranches h (f.take [i]) [] out' rest = .ok (out', []) := by
    intro out'
    cases rest <;> rfl
  have hsplit : splitHits [0] [some true] = ([0], []) := rfl
  rw [← f.take_self_singleton i] at hp
  rw [Scalar.evalBranches_cons (by simp) hp]
  simp only [hsplit, hrest, f.take_self_singleton]
  rfl

/-- A branch that does not take the row changes nothing. -/
theorem Scalar.evalBranches_row_of_ne_true (hp : p.eval h (f.take [i]) = .ok [t])
    (ht : t ≠ some true) (out : List Cell) :
    Scalar.evalBranches h (f.take [i]) [0] out ((p, e) :: rest) =
      Scalar.evalBranches h (f.take [i]) [0] out rest := by
  have hsplit : splitHits [0] [t] = ([], [0]) := by
    rw [splitHits_eq]
    simp [ht]
  rw [← f.take_self_singleton i] at hp
  rw [Scalar.evalBranches_cons (by simp) hp, hsplit]
  rfl

theorem Scalar.exists_evalBranches_row {branches : List (Predicate κ × Scalar κ)}
    {otherwise : Option (Scalar κ)}
    (hrow : ∃ vs, Scalar.eval h (f.take [i]) (.caseWhen branches otherwise) = .ok vs) :
    ∃ answer, Scalar.evalBranches h (f.take [i]) [0] [.null] branches = .ok answer := by
  obtain ⟨_, hv⟩ := hrow
  rcases otherwise with _ | d
  all_goals
    obtain ⟨answer, hanswer, _⟩ := bind_eq_ok_iff.mp hv
    exact ⟨answer, hanswer⟩

/-- A row that no branch takes reaches the default. -/
theorem Scalar.exists_eval_default {branches : List (Predicate κ × Scalar κ)} {out : List Cell}
    (hleft : Scalar.evalBranches h (f.take [i]) [0] [.null] branches = .ok (out, [0]))
    (hrow : ∃ vs, Scalar.eval h (f.take [i]) (.caseWhen branches (some e)) = .ok vs) :
    ∃ vs, e.eval h (f.take [i]) = .ok vs := by
  obtain ⟨_, hv⟩ := hrow
  obtain ⟨_, hanswer, hv⟩ := bind_eq_ok_iff.mp hv
  obtain rfl := Except.ok.inj (hleft.symm.trans hanswer)
  obtain ⟨vs, hvs, _⟩ := bind_eq_ok_iff.mp hv
  exact ⟨vs, f.take_self_singleton i ▸ hvs⟩

/-- **A case distinction over one row.**  The branch that takes the row decides alone, with its
scalar; a branch that does not take it does not matter. -/
theorem Scalar.eval_caseWhen_row (hp : p.eval h (f.take [i]) = .ok [t])
    (otherwise : Option (Scalar κ)) :
    (∃ vs, Scalar.eval h (f.take [i]) (.caseWhen ((p, e) :: rest) otherwise) = .ok vs) ↔
      if t = some true then ∃ vs, e.eval h (f.take [i]) = .ok vs
      else ∃ vs, Scalar.eval h (f.take [i]) (.caseWhen rest otherwise) = .ok vs := by
  have hrange : List.range (f.take [i]).len = [0] := rfl
  split
  · next ht =>
    -- nothing is left to the default, be there one or not
    rw [ht] at hp
    rcases otherwise with _ | d
    all_goals
      simp only [Scalar.eval, hrange, Scalar.evalBranches_row_of_true hp, bind_assoc,
        bind_eq_ok_iff]
      constructor
      · rintro ⟨_, vs, he, _⟩
        exact ⟨vs, he⟩
      · rintro ⟨vs, he⟩
        exact ⟨_, vs, he, _, rfl, rfl⟩
  · next ht =>
    rcases otherwise with _ | d
    all_goals
      simp only [Scalar.eval, hrange, Scalar.evalBranches_row_of_ne_true hp ht]

end

/-! ## From rows to tables -/

section

variable {C : NamedCells → κ → Truth → Prop} {h : ClauseEval κ}

/-- A way to evaluate clauses that fails on a table with rows only if it fails on a row. -/
def ClauseEval.Local (h : ClauseEval κ) : Prop :=
  ∀ (f : Frame) (c : κ), f.WellFormed → 0 < f.len → f.ByRow (fun g => h c g) →
    ∃ ts, h c f = .ok ts

/-- A step that is made with the cells of two scalars. -/
theorem Scalar.zip_of_rows {β : Type} {step : Cell × Cell → Outcome β} (hC : h.Follows C)
    {l r : Scalar κ} {f : Frame} (hf : f.WellFormed) (hl : ∃ ls, l.eval h f = .ok ls)
    (hr : ∃ rs, r.eval h f = .ok rs) (hrows : f.ByRow fun g => do
      let ls ← l.eval h g
      let rs ← r.eval h g
      (ls.zip rs).mapM step) :
    ∃ vs, (do
      let ls ← l.eval h f
      let rs ← r.eval h f
      (ls.zip rs).mapM step : Outcome (List β)) = .ok vs := by
  obtain ⟨ls, hl⟩ := hl
  obtain ⟨rs, hr⟩ := hr
  have hzip := (Scalar.eval_follows hC hf l hl).zip (Scalar.eval_follows hC hf r hr)
  obtain ⟨vs, hv⟩ : ∃ vs, (ls.zip rs).mapM step = .ok vs := by
    apply hzip.exists_mapM_of_rows
    intro i hi
    have hg := Frame.wellFormed_take hf [i]
    obtain ⟨ws, hw⟩ := hrows i hi
    obtain ⟨ls', rs', hl', hr', hw⟩ := bind_both_eq_ok_iff.mp hw
    exact ⟨_, ws, (Scalar.eval_follows hC hg l hl').zip (Scalar.eval_follows hC hg r hr'), hw⟩
  exact ⟨vs, bind_both_eq_ok_iff.mpr ⟨ls, rs, hl, hr, hv⟩⟩

/-- Matching with patterns is such a step. -/
theorem Cell.matchPatterns_none (compile : String → Outcome Regex) (negated : Bool)
    (rows : List (Cell × Cell)) : Cell.matchPatterns compile negated none rows =
      rows.mapM fun row => row.1.matchesPattern compile row.2 negated :=
  Cell.matchPatterns_eq_mapM rows (by simp)

mutual

theorem Scalar.eval_of_rows (hC : h.Follows C) (hL : h.Local) :
    ∀ (e : Scalar κ), e.Uncoalesced → ∀ {f : Frame}, f.WellFormed → 0 < f.len →
      f.ByRow (fun g => e.eval h g) → ∃ vs, e.eval h f = .ok vs
  | .column name, _, f, hf, hlen, hrows => by
    obtain ⟨_, hv⟩ := hrows.first hlen
    obtain ⟨c, hc, _⟩ := bind_eq_ok_iff.mp hv
    have hname := Frame.mem_names_of_require hc
    rw [Frame.names_take] at hname
    obtain ⟨d, hd⟩ := Frame.exists_require hname
    exact ⟨d.values, bind_eq_ok_iff.mpr ⟨d, hd, rfl⟩⟩
  | .literal value, _, f, hf, hlen, hrows => ⟨_, rfl⟩
  | .binary op l r, ⟨hl, hr⟩, f, hf, hlen, hrows => by
    obtain ⟨hl', hr'⟩ := hrows.both
    exact Scalar.zip_of_rows hC hf (Scalar.eval_of_rows hC hL l hl hf hlen hl')
      (Scalar.eval_of_rows hC hL r hr hf hlen hr') hrows
  | .safeDiv n d fill, ⟨hn, hd⟩, f, hf, hlen, hrows => by
    obtain ⟨hn', hd'⟩ := hrows.both
    exact Scalar.zip_of_rows hC hf (Scalar.eval_of_rows hC hL n hn hf hlen hn')
      (Scalar.eval_of_rows hC hL d hd hf hlen hd') hrows
  | .caseWhen branches none, hb, f, hf, hlen, hrows => by
    obtain ⟨vs, left, hv, _⟩ := Scalar.evalBranches_of_rows hC hL branches hb hf
      (fun i hi => Scalar.exists_evalBranches_row (hrows i (List.mem_range.mp hi)))
      (List.replicate f.len .null)
    exact ⟨vs, bind_eq_ok_iff.mpr ⟨(vs, left), hv, rfl⟩⟩
  | .caseWhen branches (some e), ⟨hb, he⟩, f, hf, hlen, hrows => by
    obtain ⟨vs, left, hv, hleft⟩ := Scalar.evalBranches_of_rows hC hL branches hb hf
      (fun i hi => Scalar.exists_evalBranches_row (hrows i (List.mem_range.mp hi)))
      (List.replicate f.len .null)
    by_cases hnil : left = []
    · exact ⟨vs, bind_eq_ok_iff.mpr ⟨(vs, left), hv, by rw [hnil]; rfl⟩⟩
    · -- the rows that no branch took reach the default, each in its own table too
      have hdefault : ∀ i ∈ left, ∃ ws, e.eval h (f.take [i]) = .ok ws := by
        intro i hi
        obtain ⟨hrange, out', hout'⟩ := hleft i hi
        exact Scalar.exists_eval_default hout' (hrows i (List.mem_range.mp hrange))
      obtain ⟨values, hvalues⟩ := Scalar.eval_of_rows hC hL e he (Frame.wellFormed_take hf left)
        (List.length_pos_iff.mpr hnil) (Frame.byRow_take hdefault)
      refine ⟨placeAt left values vs, bind_eq_ok_iff.mpr ⟨(vs, left), hv, ?_⟩⟩
      dsimp only
      rw [if_neg (by simpa using hnil), hvalues]
      rfl
  | .fragment text, _, f, hf, hlen, hrows => by
    obtain ⟨_, hv⟩ := hrows.first hlen
    exact nomatch hv
termination_by structural e => e

theorem Scalar.evalBranches_of_rows (hC : h.Follows C) (hL : h.Local) :
    ∀ (branches : List (Predicate κ × Scalar κ)), Scalar.UncoalescedBranches branches →
      ∀ {f : Frame} {rows : List Nat}, f.WellFormed → (∀ i ∈ rows, ∃ answer,
        Scalar.evalBranches h (f.take [i]) [0] [.null] branches = .ok answer) →
      ∀ out, ∃ vs left, Scalar.evalBranches h f rows out branches = .ok (vs, left) ∧
        ∀ i ∈ left, i ∈ rows ∧ ∃ out',
          Scalar.evalBranches h (f.take [i]) [0] [.null] branches = .ok (out', [0])
  | [], _, f, rows, hf, hrows, out => ⟨out, rows, rfl, fun i hi => ⟨hi, _, rfl⟩⟩
  | (p, e) :: rest, ⟨⟨hp, he⟩, hrest⟩, f, rows, hf, hrows, out => by
    by_cases hnil : rows = []
    · subst hnil
      exact ⟨out, [], rfl, nofun⟩
    · -- the predicate, on the rows that are open and on each of them
      have hp' : ∀ i ∈ rows, ∃ ts, p.eval h (f.take [i]) = .ok ts := by
        intro i hi
        obtain ⟨_, hanswer⟩ := hrows i hi
        obtain ⟨ts, hts, _⟩ := bind_eq_ok_iff.mp hanswer
        exact ⟨ts, f.take_self_singleton i ▸ hts⟩
      obtain ⟨hits, hhits⟩ := Predicate.eval_of_rows hC hL p hp (Frame.wellFormed_take hf rows)
        (List.length_pos_iff.mpr hnil) (Frame.byRow_take hp')
      have hfollows := Predicate.eval_follows hC (Frame.wellFormed_take hf rows) p hhits
      have hhit : ∀ {i : Nat} {t : Truth}, (i, t) ∈ rows.zip hits →
          p.eval h (f.take [i]) = .ok [t] := by
        intro i t hit
        obtain ⟨ts, hts⟩ := hp' i (List.of_mem_zip hit).1
        have hrow := Predicate.eval_follows hC (Frame.wellFormed_take hf [i]) p hts
        obtain ⟨u, rfl⟩ := hrow.exists_eq_singleton
        have hu := (hrow.means_iff (i := 0) rfl u).mpr rfl
        rw [Frame.row_take (j := 0) rfl, Frame.follows_take hfollows hit] at hu
        rw [hts, hu]
      -- the scalar, on the rows that the branch takes
      have htaken : ∀ i ∈ (splitHits rows hits).1, ∃ vs, e.eval h (f.take [i]) = .ok vs := by
        intro i hi
        have hit := mem_splitHits_fst.mp hi
        obtain ⟨_, hanswer⟩ := hrows i (List.of_mem_zip hit).1
        rw [Scalar.evalBranches_row_of_true (hhit hit)] at hanswer
        obtain ⟨vs, hvs, _⟩ := bind_eq_ok_iff.mp hanswer
        exact ⟨vs, hvs⟩
      -- the other branches, on the rows that stay open
      have hopen : ∀ i ∈ (splitHits rows hits).2, i ∈ rows ∧
          Scalar.evalBranches h (f.take [i]) [0] [.null] ((p, e) :: rest) =
            Scalar.evalBranches h (f.take [i]) [0] [.null] rest := by
        intro i hi
        obtain ⟨t, ht, hne⟩ := mem_splitHits_snd.mp hi
        exact ⟨(List.of_mem_zip ht).1, Scalar.evalBranches_row_of_ne_true (hhit ht) hne _⟩
      have hmore : ∀ out, ∃ vs left,
          Scalar.evalBranches h f (splitHits rows hits).2 out rest = .ok (vs, left) ∧
          ∀ i ∈ left, i ∈ rows ∧ ∃ out',
            Scalar.evalBranches h (f.take [i]) [0] [.null] ((p, e) :: rest) =
              .ok (out', [0]) := by
        intro out
        obtain ⟨vs, left, hv, hleft⟩ := Scalar.evalBranches_of_rows hC hL rest hrest hf
          (fun i hi => (hopen i hi).2 ▸ hrows i (hopen i hi).1) out
        refine ⟨vs, left, hv, fun i hi => ?_⟩
        obtain ⟨hi', hout'⟩ := hleft i hi
        exact ⟨(hopen i hi').1, (hopen i hi').2 ▸ hout'⟩
      rw [Scalar.evalBranches_cons hnil hhits]
      split
      · exact hmore out
      · next htrue =>
        obtain ⟨values, hvalues⟩ := Scalar.eval_of_rows hC hL e he (Frame.wellFormed_take hf _)
          (List.length_pos_iff.mpr htrue) (Frame.byRow_take htaken)
        rw [hvalues, ok_bind]
        exact hmore _
termination_by structural branches => branches

theorem Predicate.eval_of_rows (hC : h.Follows C) (hL : h.Local) :
    ∀ (p : Predicate κ), p.Uncoalesced → ∀ {f : Frame}, f.WellFormed → 0 < f.len →
      f.ByRow (fun g => p.eval h g) → ∃ ts, p.eval h f = .ok ts
  | .compare op l r, ⟨hl, hr⟩, f, hf, hlen, hrows => by
    obtain ⟨hl', hr'⟩ := hrows.both
    obtain ⟨ls, hls⟩ := Scalar.eval_of_rows hC hL l hl hf hlen hl'
    obtain ⟨rs, hrs⟩ := Scalar.eval_of_rows hC hL r hr hf hlen hr'
    exact ⟨_, bind_both_eq_ok_iff.mpr ⟨ls, rs, hls, hrs, rfl⟩⟩
  | .member e values, he, f, hf, hlen, hrows => by
    obtain ⟨cs, hcs⟩ := Scalar.eval_of_rows hC hL e he hf hlen hrows.one
    exact ⟨_, bind_eq_ok_iff.mpr ⟨cs, hcs, rfl⟩⟩
  | .range e low high bounds, he, f, hf, hlen, hrows => by
    obtain ⟨cs, hcs⟩ := Scalar.eval_of_rows hC hL e he hf hlen hrows.one
    exact ⟨_, bind_eq_ok_iff.mpr ⟨cs, hcs, rfl⟩⟩
  | .isNull e, he, f, hf, hlen, hrows => by
    obtain ⟨cs, hcs⟩ := Scalar.eval_of_rows hC hL e he hf hlen hrows.one
    exact ⟨_, bind_eq_ok_iff.mpr ⟨cs, hcs, rfl⟩⟩
  | .join op l r, ⟨hl, hr⟩, f, hf, hlen, hrows => by
    obtain ⟨hl', hr'⟩ := hrows.both
    obtain ⟨ls, hls⟩ := Predicate.eval_of_rows hC hL l hl hf hlen hl'
    obtain ⟨rs, hrs⟩ := Predicate.eval_of_rows hC hL r hr hf hlen hr'
    exact ⟨_, bind_both_eq_ok_iff.mpr ⟨ls, rs, hls, hrs, rfl⟩⟩
  | .not p, hp, f, hf, hlen, hrows => by
    obtain ⟨ts, hts⟩ := Predicate.eval_of_rows hC hL p hp hf hlen hrows.one
    exact ⟨_, bind_eq_ok_iff.mpr ⟨ts, hts, rfl⟩⟩
  | .like e pattern ignoreCase negated, ⟨he, hpattern⟩, f, hf, hlen, hrows => by
    obtain ⟨he', hpattern'⟩ := hrows.both
    simp only [Predicate.eval, Cell.matchPatterns_none] at hrows ⊢
    exact Scalar.zip_of_rows hC hf (Scalar.eval_of_rows hC hL e he hf hlen he')
      (Scalar.eval_of_rows hC hL pattern hpattern hf hlen hpattern') hrows
  | .regex e pattern flags negated, ⟨he, hpattern⟩, f, hf, hlen, hrows => by
    simp only [Predicate.eval, Cell.matchPatterns_none] at hrows ⊢
    obtain ⟨_, hfirst⟩ := hrows.first hlen
    -- the flags are the same in every row
    obtain ⟨normal, hnormal, _⟩ := bind_eq_ok_iff.mp hfirst
    simp only [hnormal, ok_bind] at hrows ⊢
    obtain ⟨he', hpattern'⟩ := hrows.both
    exact Scalar.zip_of_rows hC hf (Scalar.eval_of_rows hC hL e he hf hlen he')
      (Scalar.eval_of_rows hC hL pattern hpattern hf hlen hpattern') hrows
  | .clause c, _, f, hf, hlen, hrows => hL f c hf hlen hrows
termination_by structural p => p

end

end

/-! ## Main statement -/

theorem noClauses_local : ClauseEval.Local noClauses := by
  intro _ c
  exact nomatch c

/-- A clause fails on a table with rows only if it fails on a row. -/
theorem Clause.eval_local : ClauseEval.Local Clause.eval := by
  intro f c hf hlen hrows
  obtain ⟨_, hfirst⟩ := hrows.first hlen
  obtain ⟨p, hp, _⟩ := bind_eq_ok_iff.mp hfirst
  simp only [Clause.eval, hp, ok_bind] at hrows ⊢
  exact Predicate.eval_of_rows noClauses_follows noClauses_local p
    (elementary_of_parsed hp).uncoalesced hf hlen hrows

/-- What can be evaluated over a table can be evaluated over each of its rows. -/
theorem Expr.evaluate_byRow {f : Frame} (hf : f.WellFormed) {e : Expr} {vs : List Cell}
    (h : e.evaluate f = .ok vs) : f.ByRow fun g => e.evaluate g := fun _ hi =>
  ⟨_, e.evaluate_take hf h (List.forall_mem_singleton.mpr hi)⟩

theorem Condition.evaluate_byRow {f : Frame} (hf : f.WellFormed) {p : Condition}
    {ts : List Truth} (h : p.evaluate f = .ok ts) : f.ByRow fun g => p.evaluate g := fun i hi =>
  Predicate.eval_partOf Clause.eval_follows Clause.eval_restricts p hf
    (Frame.wellFormed_take hf [i]) (Frame.partOf_take (List.forall_mem_singleton.mpr hi)) h

/-- **Errors of evaluation are errors of rows.**  Without a search for the first cell that is not
null, an expression or a condition can be evaluated over a table with rows if and only if it can be
evaluated over each row alone.  A row fails in a case distinction only for a predicate that no
earlier branch kept from it, for the scalar of the branch that takes it, or for the default. -/
theorem evaluates_iff_row_by_row {f : Frame} (hf : f.WellFormed) (hlen : 0 < f.len) :
    (∀ e : Expr, e.Uncoalesced →
      ((∃ vs, e.evaluate f = .ok vs) ↔ ∀ i < f.len, ∃ vs, e.evaluate (f.take [i]) = .ok vs)) ∧
    (∀ p : Condition, p.Uncoalesced →
      ((∃ ts, p.evaluate f = .ok ts) ↔ ∀ i < f.len, ∃ ts, p.evaluate (f.take [i]) = .ok ts)) ∧
    ∀ (p : Condition) (e : Expr) (rest : List (Condition × Expr)) (otherwise : Option Expr)
      (i : Nat) (t : Truth), p.evaluate (f.take [i]) = .ok [t] →
        ((∃ vs, Expr.evaluate (.caseWhen ((p, e) :: rest) otherwise) (f.take [i]) = .ok vs) ↔
          if t = some true then ∃ vs, e.evaluate (f.take [i]) = .ok vs
          else ∃ vs, Expr.evaluate (.caseWhen rest otherwise) (f.take [i]) = .ok vs) := by
  refine ⟨?_, ?_, ?_⟩
  · intro e he
    refine ⟨fun ⟨_, hv⟩ => Expr.evaluate_byRow hf hv, fun hrows => ?_⟩
    exact Scalar.eval_of_rows Clause.eval_follows Clause.eval_local e he hf hlen hrows
  · intro p hp
    refine ⟨fun ⟨_, ht⟩ => Condition.evaluate_byRow hf ht, fun hrows => ?_⟩
    exact Predicate.eval_of_rows Clause.eval_follows Clause.eval_local p hp hf hlen hrows
  · intro p e rest otherwise i t hp
    exact Scalar.eval_caseWhen_row hp otherwise

/-- Amounts, of which one is no number. -/
def mixedAmounts : Frame :=
  ⟨[⟨"kind", [.text "paid", .text "note"]⟩, ⟨"amount", [.int 4, .text "none"]⟩], 2⟩

/-- Twice the amount of what is paid. -/
def doublePaid : Expr :=
  .caseWhen [(.compare .eq (.column "kind") (.literal (.text "paid")),
    .binary .mul (.column "amount") (.literal (.int 2)))] none

/-- Twice the amount cannot be computed, since it cannot be in the second row; with a condition that
this row does not satisfy it can. -/
theorem evaluates_guarded_amounts :
    (¬∃ vs, Expr.evaluate (.binary .mul (.column "amount") (.literal (.int 2))) mixedAmounts =
      .ok vs) ∧
    ∃ vs, doublePaid.evaluate mixedAmounts = .ok vs := by
  obtain ⟨hexpr, -, hcase⟩ := evaluates_iff_row_by_row (f := mixedAmounts) (by decide) (by decide)
  constructor
  · intro hall
    obtain ⟨_, hrow⟩ := (hexpr (.binary .mul (.column "amount") (.literal (.int 2)))
      ⟨trivial, trivial⟩).mp hall 1 (by decide)
    exact nomatch hrow
  · refine (hexpr doublePaid ⟨⟨⟨trivial, trivial⟩, trivial, trivial⟩, trivial⟩).mpr ?_
    intro i hi
    match i, hi with
    | 0, _ => exact ⟨_, rfl⟩
    | 1, _ => exact (hcase _ _ [] none 1 (some false) rfl).mpr ⟨_, rfl⟩

end Crosstab
