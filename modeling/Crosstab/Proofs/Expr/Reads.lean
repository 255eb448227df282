import Crosstab.Proofs.Expr.Aggregate
import Crosstab.Proofs.Frame.Agree

/-!
# What evaluation reads

An expression reads no columns but those that it names: on tables that agree on these, evaluation
gives the same answer, be it cells or an error (`Scalar.eval_congr`, `Predicate.eval_congr`).  So do
filters and aggregates.
-/

namespace Crosstab

/-! ## Names that are read -/

theorem mem_foldl_insertName {name : String} {names seen : List String} :
    name ∈ names.foldl (fun s n => insertName n s) seen ↔ name ∈ seen ∨ name ∈ names := by
  induction names generalizing seen with
  | nil => simp
  | cons n rest ih =>
    rw [List.foldl_cons, ih, mem_insertName, List.mem_cons]
    constructor
    · rintro ((h | h) | h)
      · exact .inr (.inl h)
      · exact .inl h
      · exact .inr (.inr h)
    · rintro (h | h | h)
      · exact .inl (.inr h)
      · exact .inl (.inl h)
      · exact .inr h

theorem mem_sortedNames {name : String} {names : List String} :
    name ∈ sortedNames names ↔ name ∈ names := by
  rw [sortedNames, mem_foldl_insertName]
  simp

section

variable {κ : Type} {h : ClauseEval κ} {names : κ → List String} {N : String → Prop}

/-- A way to evaluate clauses that reads no columns but those that a clause names. -/
def ClauseEval.Reads (h : ClauseEval κ) (names : κ → List String) : Prop :=
  ∀ c (N : String → Prop) (f g : Frame), (∀ name ∈ names c, N name) → f.AgreeOn N g →
    h c g = h c f

mutual

theorem Scalar.eval_congr (hC : h.Reads names) : ∀ (e : Scalar κ) {f g : Frame},
    (∀ name ∈ e.columns names, N name) → f.AgreeOn N g → e.eval h g = e.eval h f
  | .column name, f, g, hN, hfg => by
    have hname : N name := hN name List.mem_cons_self
    simp only [Scalar.eval, hfg.require_eq hname]
  | .literal value, f, g, _, hfg => by
    simp only [Scalar.eval, hfg.len_eq]
  | .binary op l r, f, g, hN, hfg => by
    simp only [Scalar.columns, List.mem_append, or_imp, forall_and] at hN
    simp only [Scalar.eval, Scalar.eval_congr hC l hN.1 hfg, Scalar.eval_congr hC r hN.2 hfg]
  | .safeDiv n m fill, f, g, hN, hfg => by
    simp only [Scalar.columns, List.mem_append, or_imp, forall_and] at hN
    simp only [Scalar.eval, Scalar.eval_congr hC n hN.1 hfg, Scalar.eval_congr hC m hN.2 hfg]
  | .coalesce args, f, g, hN, hfg => by
    simp only [Scalar.eval, hfg.len_eq]
    exact Scalar.evalFirst_congr hC args hN hfg _
  | .caseWhen branches none, f, g, hN, hfg => by
    simp only [Scalar.eval, hfg.len_eq, Scalar.evalBranches_congr hC branches hN hfg]
  | .caseWhen branches (some e), f, g, hN, hfg => by
    simp only [Scalar.columns, List.mem_append, or_imp, forall_and] at hN
    have he : ∀ rows, e.eval h (g.take rows) = e.eval h (f.take rows) := fun rows =>
      Scalar.eval_congr hC e hN.2 (hfg.take rows)
    simp only [Scalar.eval, hfg.len_eq, Scalar.evalBranches_congr hC branches hN.1 hfg, he]
  | .fragment _, _, _, _, _ => rfl
termination_by structural e => e

theorem Scalar.evalFirst_congr (hC : h.Reads names) : ∀ (args : List (Scalar κ)) {f g : Frame},
    (∀ name ∈ Scalar.columnsOfList names args, N name) → f.AgreeOn N g → ∀ out,
      Scalar.evalFirst h g out args = Scalar.evalFirst h f out args
  | [], _, _, _, _, _ => rfl
  | e :: rest, f, g, hN, hfg, out => by
    simp only [Scalar.columnsOfList, List.mem_append, or_imp, forall_and] at hN
    simp only [Scalar.evalFirst, Scalar.eval_congr hC e hN.1 hfg,
      Scalar.evalFirst_congr hC rest hN.2 hfg]
termination_by structural args => args

theorem Scalar.evalBranches_congr (hC : h.Reads names) :
    ∀ (branches : List (Predicate κ × Scalar κ)) {f g : Frame},
      (∀ name ∈ Scalar.columnsOfBranches names branches, N name) → f.AgreeOn N g →
        ∀ rows out, Scalar.evalBranches h g rows out branches =
          Scalar.evalBranches h f rows out branches
  | [], _, _, _, _, _, _ => rfl
  | (p, e) :: rest, f, g, hN, hfg, rows, out => by
    simp only [Scalar.columnsOfBranches, List.mem_append, or_imp, forall_and] at hN
    have he : ∀ rows, e.eval h (g.take rows) = e.eval h (f.take rows) := fun rows =>
      Scalar.eval_congr hC e hN.1.2 (hfg.take rows)
    simp only [Scalar.evalBranches, Predicate.eval_congr hC p hN.1.1 (hfg.take rows), he,
      Scalar.evalBranches_congr hC rest hN.2 hfg]
termination_by structural branches => branches

theorem Predicate.eval_congr (hC : h.Reads names) : ∀ (p : Predicate κ) {f g : Frame},
    (∀ name ∈ p.columns names, N name) → f.AgreeOn N g → p.eval h g = p.eval h f
  | .compare op l r, f, g, hN, hfg => by
    simp only [Predicate.columns, List.mem_append, or_imp, forall_and] at hN
    simp only [Predicate.eval, Scalar.eval_congr hC l hN.1 hfg, Scalar.eval_congr hC r hN.2 hfg]
  | .member e values, f, g, hN, hfg => by
    simp only [Predicate.eval, Scalar.eval_congr hC e hN hfg]
  | .range e low high bounds, f, g, hN, hfg => by
    simp only [Predicate.eval, Scalar.eval_congr hC e hN hfg]
  | .isNull e, f, g, hN, hfg => by
    simp only [Predicate.eval, Scalar.eval_congr hC e hN hfg]
  | .join op p q, f, g, hN, hfg => by
    simp only [Predicate.columns, List.mem_append, or_imp, forall_and] at hN
    simp only [Predicate.eval, Predicate.eval_congr hC p hN.1 hfg,
      Predicate.eval_congr hC q hN.2 hfg]
  | .not p, f, g, hN, hfg => by
    simp only [Predicate.eval, Predicate.eval_congr hC p hN hfg]
  | .like e pattern ignoreCase negated, f, g, hN, hfg => by
    simp only [Predicate.columns, List.mem_append, or_imp, forall_and] at hN
    simp only [Predicate.eval, Scalar.eval_congr hC e hN.1 hfg,
      Scalar.eval_congr hC pattern hN.2 hfg]
  | .regex e pattern flags negated, f, g, hN, hfg => by
    simp only [Predicate.columns, List.mem_append, or_imp, forall_and] at hN
    simp only [Predicate.eval, Scalar.eval_congr hC e hN.1 hfg,
      Scalar.eval_congr hC pattern hN.2 hfg]
  | .clause c, f, g, hN, hfg => hC c N f g hN hfg
termination_by structural p => p

end

end

theorem noClauses_reads : ClauseEval.Reads noClauses noClauses := by
  intro c
  exact nomatch c

/-- A clause reads what the predicate reads that it stands for. -/
theorem Clause.eval_reads : ClauseEval.Reads Clause.eval Clause.columns := by
  intro c N f g hN hfg
  unfold Clause.eval Clause.parsed
  unfold Clause.columns at hN
  cases hp : Clause.predicate c with
  | error e => rfl
  | ok p =>
    rw [hp] at hN
    exact Predicate.eval_congr noClauses_reads p hN hfg

/-! ## Filters and aggregates -/

variable {N : String → Prop} {f g : Frame}

theorem Condition.mask_congr {p : Condition} (hp : ∀ name ∈ p.dependencies, N name)
    (hfg : f.AgreeOn N g) : p.mask g = p.mask f := by
  have heval : p.evaluate g = p.evaluate f :=
    Predicate.eval_congr Clause.eval_reads p (fun name hname => hp name (mem_sortedNames.mpr hname))
      hfg
  rw [mask, mask, heval]

theorem Aggregate.eval_congr {a : Aggregate} (ha : ∀ name ∈ a.dependencies, N name)
    (hfg : f.AgreeOn N g) (groups : List (List Nat)) : a.eval g groups = a.eval f groups := by
  have hreduce : ∀ (r : Reduction) (e : Expr), (∀ name ∈ e.columns Clause.columns, N name) →
      reduceGroups g groups r e = reduceGroups f groups r e := by
    intro r e he
    have heval : e.evaluate g = e.evaluate f := Scalar.eval_congr Clause.eval_reads e he hfg
    rw [reduceGroups, reduceGroups, heval]
  cases a with
  | reduce r e => exact hreduce r e fun name hname => ha name (mem_sortedNames.mpr hname)
  | countRows => rfl
  | ratio n m fill =>
    have hnames : ∀ name ∈ n.columns Clause.columns ++ m.columns Clause.columns, N name :=
      fun name hname => ha name (mem_sortedNames.mpr hname)
    simp only [List.mem_append, or_imp, forall_and] at hnames
    rw [eval, eval, hreduce .sum n hnames.1, hreduce .sum m hnames.2]

end Crosstab
