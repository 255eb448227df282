import Crosstab.Expr.Aggregate
import Crosstab.Proofs.Clause.Parsed

/-!
# Which texts an evaluation can blame

An expression holds text of its own: clauses, which may not read, and the flags of regular
expressions, which may be unknown.  `faults` lists what is wrong with the texts of an expression, at
any depth.  Evaluation blames a text only for one of these faults (`Scalar.eval_blames`,
`Predicate.eval_blames`); everything else that can go wrong has other errors.

A predicate has texts of its own (`Predicate.ownFaults`) and texts within its operands
(`Predicate.operandFaults`), which only the case distinctions of scalars have.
-/

namespace Crosstab

/-! ## Errors of texts -/

/-- The error says that a clause does not read or that a flag is unknown. -/
def ReportError.OfText : ReportError → Prop
  | .clause _ => True
  | .invalid (.unsupportedFlag _) => True
  | _ => False

/-- Where a computation blames a text, its error is one of some kind. -/
def Blames {α : Type} (P : ReportError → Prop) (x : Outcome α) : Prop :=
  ∀ e, x = .error e → e.OfText → P e

namespace Blames

variable {α β : Type} {P : ReportError → Prop} {x : Outcome α}

theorem ok (a : α) : Blames P (.ok a : Outcome α) := FailsOnly.ok a

theorem pure (a : α) : Blames P (Pure.pure a : Outcome α) := FailsOnly.pure a

theorem reject {why : Invalid} (h : ¬ (ReportError.invalid why).OfText) :
    Blames P (reject why : Outcome α) := FailsOnly.error fun htext => absurd htext h

/-- What an error blames does not depend on what is computed. -/
theorem error {e : ReportError} (h : Blames P (.error e : Outcome α)) :
    Blames P (.error e : Outcome β) := FailsOnly.error (h e rfl)

theorem bind (hx : Blames P x) {f : α → Outcome β} (hf : ∀ a, x = .ok a → Blames P (f a)) :
    Blames P (x >>= f) := FailsOnly.bind hx hf

theorem map (hx : Blames P x) (f : α → β) : Blames P (x.map f) := by
  cases x with
  | error e => exact hx.error
  | ok a => exact ok (f a)

theorem mapM {f : α → Outcome β} {as : List α} (h : ∀ a ∈ as, Blames P (f a)) :
    Blames P (as.mapM f) := FailsOnly.mapM h

theorem foldlM {f : β → α → Outcome β} (h : ∀ b a, Blames P (f b a)) (as : List α) (b : β) :
    Blames P (as.foldlM f b) := by
  induction as generalizing b with
  | nil => exact pure b
  | cons a as ih =>
    rw [List.foldlM_cons]
    exact bind (h b a) fun b' _ => ih b'

end Blames

/-- The error of a computation, if it fails. -/
def faultsOf {α : Type} (x : Outcome α) : List ReportError :=
  match x with
  | .ok _ => []
  | .error e => [e]

theorem faultsOf_eq_nil_iff {α : Type} {x : Outcome α} : faultsOf x = [] ↔ ∃ a, x = .ok a := by
  cases x with
  | error e => simp [faultsOf]
  | ok a => simp [faultsOf]

theorem blames_of_faultsOf {α : Type} {x : Outcome α} {P : ReportError → Prop}
    (h : ∀ e ∈ faultsOf x, P e) : Blames P x := by
  rintro e rfl -
  exact h e List.mem_cons_self

/-! ## Faults of expressions -/

mutual

/-- What is wrong with the texts of a scalar. -/
def Scalar.faults {κ : Type} (f : κ → List ReportError) : Scalar κ → List ReportError
  | .column _ => []
  | .literal _ => []
  | .binary _ l r => l.faults f ++ r.faults f
  | .safeDiv n d _ => n.faults f ++ d.faults f
  | .coalesce args => Scalar.faultsOfList f args
  | .caseWhen branches none => Scalar.faultsOfBranches f branches
  | .caseWhen branches (some e) => Scalar.faultsOfBranches f branches ++ e.faults f
  | .fragment _ => []
termination_by structural e => e

/-- What is wrong with the texts of some scalars. -/
def Scalar.faultsOfList {κ : Type} (f : κ → List ReportError) :
    List (Scalar κ) → List ReportError
  | [] => []
  | e :: rest => e.faults f ++ Scalar.faultsOfList f rest
termination_by structural es => es

/-- What is wrong with the texts of some branches. -/
def Scalar.faultsOfBranches {κ : Type} (f : κ → List ReportError) :
    List (Predicate κ × Scalar κ) → List ReportError
  | [] => []
  | (p, e) :: rest => p.faults f ++ e.faults f ++ Scalar.faultsOfBranches f rest
termination_by structural bs => bs

/-- What is wrong with the texts of a predicate. -/
def Predicate.faults {κ : Type} (f : κ → List ReportError) : Predicate κ → List ReportError
  | .compare _ l r => l.faults f ++ r.faults f
  | .member e _ => e.faults f
  | .range e _ _ _ => e.faults f
  | .isNull e => e.faults f
  | .join _ l r => l.faults f ++ r.faults f
  | .not p => p.faults f
  | .like e pattern _ _ => e.faults f ++ pattern.faults f
  | .regex e pattern flags _ =>
    faultsOf (Pattern.normalFlags flags) ++ e.faults f ++ pattern.faults f
  | .clause c => f c
termination_by structural p => p

end

/-- What is wrong with the texts of a predicate outside of its operands. -/
def Predicate.ownFaults {κ : Type} (f : κ → List ReportError) : Predicate κ → List ReportError
  | .join _ l r => l.ownFaults f ++ r.ownFaults f
  | .not p => p.ownFaults f
  | .regex _ _ flags _ => faultsOf (Pattern.normalFlags flags)
  | .clause c => f c
  | _ => []
termination_by structural p => p

/-- What is wrong with the texts within the operands of a predicate. -/
def Predicate.operandFaults {κ : Type} (f : κ → List ReportError) :
    Predicate κ → List ReportError
  | .compare _ l r => l.faults f ++ r.faults f
  | .member e _ => e.faults f
  | .range e _ _ _ => e.faults f
  | .isNull e => e.faults f
  | .join _ l r => l.operandFaults f ++ r.operandFaults f
  | .not p => p.operandFaults f
  | .like e pattern _ _ => e.faults f ++ pattern.faults f
  | .regex e pattern _ _ => e.faults f ++ pattern.faults f
  | .clause _ => []
termination_by structural p => p

/-- Every fault of a predicate is its own or one of its operands. -/
theorem Predicate.mem_faults_iff {κ : Type} {f : κ → List ReportError} {e : ReportError} :
    ∀ p : Predicate κ, e ∈ p.faults f ↔ e ∈ p.ownFaults f ∨ e ∈ p.operandFaults f
  | .compare _ _ _ => by simp [faults, ownFaults, operandFaults]
  | .member _ _ => by simp [faults, ownFaults, operandFaults]
  | .range _ _ _ _ => by simp [faults, ownFaults, operandFaults]
  | .isNull _ => by simp [faults, ownFaults, operandFaults]
  | .join _ l r => by
    simp only [faults, ownFaults, operandFaults, List.mem_append, mem_faults_iff l,
      mem_faults_iff r]
    exact or_or_or_comm
  | .not p => mem_faults_iff p
  | .like _ _ _ _ => by simp [faults, ownFaults, operandFaults]
  | .regex _ _ _ _ => by simp [faults, ownFaults, operandFaults]
  | .clause _ => by simp [faults, ownFaults, operandFaults]
termination_by structural p => p

/-- What is wrong with a clause: its text may not read. -/
def Clause.faults (c : Clause) : List ReportError := faultsOf c.parsed

/-! ## Cells -/

section

variable {P : ReportError → Prop}

theorem Frame.require_blames (f : Frame) (name : String) : Blames P (f.require name) := by
  unfold Frame.require
  split
  · exact .ok _
  · exact .reject nofun

theorem Cell.operand_blames (op : BinaryOp) (c : Cell) : Blames P (Cell.operand op c) := by
  unfold Cell.operand
  split
  · exact .ok _
  · exact .reject nofun

theorem Cell.safeDivide_blames (a b : Cell) (fill : Binary64) :
    Blames P (Cell.safeDivide a b fill) := by
  unfold Cell.safeDivide
  split
  · exact .ok _
  · refine .bind (Cell.operand_blames _ _) fun d _ => ?_
    split
    · exact .pure _
    · exact .bind (Cell.operand_blames _ _) fun n _ => .pure _

theorem Cell.operate_blames (op : BinaryOp) (a b : Cell) : Blames P (Cell.operate op a b) := by
  have hnumbers : ∀ op : BinaryOp, Blames P (do
      return .float (Cell.floatResult op (← Cell.operand op a) (← Cell.operand op b)) :
      Outcome Cell) := fun op =>
    .bind (Cell.operand_blames _ _) fun _ _ => .bind (Cell.operand_blames _ _) fun _ _ => .pure _
  unfold Cell.operate
  split
  · exact Cell.safeDivide_blames _ _ _
  · split
    · exact .ok _
    · exact .ok _
  · split
    · exact .ok _
    · split
      · exact .ok _
      · exact hnumbers _

theorem Pattern.compile_blames (pattern flags : String) :
    Blames P (Pattern.compile pattern flags) := by
  unfold Pattern.compile
  dsimp only
  split
  · exact .ok _
  · exact .reject nofun

theorem Cell.matchPatterns_blames {compile : String → Outcome Regex}
    (hcompile : ∀ s, Blames P (compile s)) (negated : Bool) (rows : List (Cell × Cell)) :
    Blames P (Cell.matchPatterns compile negated none rows) := by
  rw [Cell.matchPatterns_eq_mapM rows (by simp)]
  refine .mapM fun row _ => ?_
  unfold Cell.matchesPattern
  split
  · exact .ok _
  · exact .bind (hcompile _) fun _ _ => .pure _

/-! ## Evaluation -/

variable {κ : Type} {h : ClauseEval κ} {F : κ → List ReportError}

mutual

/-- Evaluating a scalar blames no texts but those with faults. -/
theorem Scalar.eval_blames (hF : ∀ c f, (∀ e ∈ F c, P e) → Blames P (h c f)) :
    ∀ (s : Scalar κ) (f : Frame), (∀ e ∈ s.faults F, P e) → Blames P (s.eval h f)
  | .column name, f, _ => .bind (f.require_blames name) fun _ _ => .pure _
  | .literal _, _, _ => .ok _
  | .binary op l r, f, hP => by
    obtain ⟨hl, hr⟩ := List.forall_mem_append.mp hP
    refine .bind (Scalar.eval_blames hF l f hl) fun _ _ => ?_
    refine .bind (Scalar.eval_blames hF r f hr) fun _ _ => ?_
    exact .mapM fun _ _ => Cell.operate_blames _ _ _
  | .safeDiv n d fill, f, hP => by
    obtain ⟨hn, hd⟩ := List.forall_mem_append.mp hP
    refine .bind (Scalar.eval_blames hF n f hn) fun _ _ => ?_
    refine .bind (Scalar.eval_blames hF d f hd) fun _ _ => ?_
    exact .mapM fun _ _ => Cell.safeDivide_blames _ _ _
  | .coalesce args, f, hP => Scalar.evalFirst_blames hF args f _ hP
  | .caseWhen branches none, f, hP =>
    .bind (Scalar.evalBranches_blames hF branches f _ _ hP) fun _ _ => .pure _
  | .caseWhen branches (some e), f, hP => by
    obtain ⟨hbranches, he⟩ := List.forall_mem_append.mp hP
    refine .bind (Scalar.evalBranches_blames hF branches f _ _ hbranches) fun _ _ => ?_
    dsimp only
    split
    · exact .pure _
    · exact .bind (Scalar.eval_blames hF e _ he) fun _ _ => .pure _
  | .fragment _, _, _ => .reject nofun
termination_by structural s => s

theorem Scalar.evalFirst_blames (hF : ∀ c f, (∀ e ∈ F c, P e) → Blames P (h c f)) :
    ∀ (args : List (Scalar κ)) (f : Frame) (out : List Cell),
      (∀ e ∈ Scalar.faultsOfList F args, P e) → Blames P (Scalar.evalFirst h f out args)
  | [], _, _, _ => .ok _
  | e :: rest, f, out, hP => by
    obtain ⟨he, hrest⟩ := List.forall_mem_append.mp hP
    simp only [Scalar.evalFirst]
    split
    · exact .ok _
    · refine .bind (Scalar.eval_blames hF e f he) fun _ _ => ?_
      exact Scalar.evalFirst_blames hF rest f _ hrest
termination_by structural args => args

theorem Scalar.evalBranches_blames (hF : ∀ c f, (∀ e ∈ F c, P e) → Blames P (h c f)) :
    ∀ (branches : List (Predicate κ × Scalar κ)) (f : Frame) (rows : List Nat) (out : List Cell),
      (∀ e ∈ Scalar.faultsOfBranches F branches, P e) →
        Blames P (Scalar.evalBranches h f rows out branches)
  | [], _, _, _, _ => .ok _
  | (p, e) :: rest, f, rows, out, hP => by
    obtain ⟨hbranch, hrest⟩ := List.forall_mem_append.mp hP
    obtain ⟨hp, he⟩ := List.forall_mem_append.mp hbranch
    simp only [Scalar.evalBranches]
    split
    · exact .ok _
    · refine .bind (Predicate.eval_blames hF p _ hp) fun _ _ => ?_
      split
      · exact Scalar.evalBranches_blames hF rest f _ _ hrest
      · refine .bind (Scalar.eval_blames hF e _ he) fun _ _ => ?_
        exact Scalar.evalBranches_blames hF rest f _ _ hrest
termination_by structural branches => branches

/-- Evaluating a predicate blames no texts but those with faults. -/
theorem Predicate.eval_blames (hF : ∀ c f, (∀ e ∈ F c, P e) → Blames P (h c f)) :
    ∀ (p : Predicate κ) (f : Frame), (∀ e ∈ p.faults F, P e) → Blames P (p.eval h f)
  | .compare op l r, f, hP => by
    obtain ⟨hl, hr⟩ := List.forall_mem_append.mp hP
    refine .bind (Scalar.eval_blames hF l f hl) fun _ _ => ?_
    exact .bind (Scalar.eval_blames hF r f hr) fun _ _ => .pure _
  | .member e _, f, hP => .bind (Scalar.eval_blames hF e f hP) fun _ _ => .pure _
  | .range e _ _ _, f, hP => .bind (Scalar.eval_blames hF e f hP) fun _ _ => .pure _
  | .isNull e, f, hP => .bind (Scalar.eval_blames hF e f hP) fun _ _ => .pure _
  | .join _ l r, f, hP => by
    obtain ⟨hl, hr⟩ := List.forall_mem_append.mp hP
    refine .bind (Predicate.eval_blames hF l f hl) fun _ _ => ?_
    exact .bind (Predicate.eval_blames hF r f hr) fun _ _ => .pure _
  | .not p, f, hP => .bind (Predicate.eval_blames hF p f hP) fun _ _ => .pure _
  | .like e pattern _ _, f, hP => by
    obtain ⟨he, hpattern⟩ := List.forall_mem_append.mp hP
    refine .bind (Scalar.eval_blames hF e f he) fun _ _ => ?_
    refine .bind (Scalar.eval_blames hF pattern f hpattern) fun _ _ => ?_
    exact Cell.matchPatterns_blames (fun _ => Pattern.compile_blames _ _) _ _
  | .regex e pattern flags _, f, hP => by
    obtain ⟨hflags, hpattern⟩ := List.forall_mem_append.mp hP
    obtain ⟨hflags, he⟩ := List.forall_mem_append.mp hflags
    refine .bind (blames_of_faultsOf hflags) fun _ _ => ?_
    refine .bind (Scalar.eval_blames hF e f he) fun _ _ => ?_
    refine .bind (Scalar.eval_blames hF pattern f hpattern) fun _ _ => ?_
    exact Cell.matchPatterns_blames (fun _ => Pattern.compile_blames _ _) _ _
  | .clause c, f, hP => hF c f hP
termination_by structural p => p

end

end

/-! ## Clauses -/

theorem Scalar.faults_of_arithmetic {κ : Type} {F : κ → List ReportError} :
    ∀ e : Scalar κ, e.Arithmetic → e.faults F = []
  | .column _, _ => rfl
  | .literal _, _ => rfl
  | .binary _ l r, ⟨_, hl, hr⟩ =>
    List.append_eq_nil_iff.mpr ⟨faults_of_arithmetic l hl, faults_of_arithmetic r hr⟩
termination_by structural e => e

/-- What clauses can say holds no text that could be wrong. -/
theorem Predicate.faults_of_elementary {κ : Type} {F : κ → List ReportError} :
    ∀ p : Predicate κ, p.Elementary → p.faults F = []
  | .compare _ l r, ⟨hl, hr⟩ =>
    List.append_eq_nil_iff.mpr ⟨l.faults_of_arithmetic hl, r.faults_of_arithmetic hr⟩
  | .member e _, he => e.faults_of_arithmetic he
  | .range e _ _ _, he => e.faults_of_arithmetic he
  | .isNull e, he => e.faults_of_arithmetic he
  | .join _ l r, ⟨hl, hr⟩ =>
    List.append_eq_nil_iff.mpr ⟨faults_of_elementary l hl, faults_of_elementary r hr⟩
  | .not p, hp => faults_of_elementary p hp
  | .like e pattern _ _, ⟨he, hpattern⟩ =>
    List.append_eq_nil_iff.mpr ⟨e.faults_of_arithmetic he, pattern.faults_of_arithmetic hpattern⟩
termination_by structural p => p

section

variable {P : ReportError → Prop}

theorem Clause.eval_blames (c : Clause) (f : Frame) (hP : ∀ e ∈ c.faults, P e) :
    Blames P (Clause.eval c f) := by
  refine .bind (blames_of_faultsOf hP) fun p hp => ?_
  have hnone : p.faults noClauses = [] := p.faults_of_elementary (elementary_of_parsed hp)
  refine Predicate.eval_blames (F := noClauses) (fun c => nomatch c) p f ?_
  simp [hnone]

theorem Expr.evaluate_blames (e : Expr) (f : Frame) (hP : ∀ x ∈ e.faults Clause.faults, P x) :
    Blames P (e.evaluate f) :=
  Scalar.eval_blames Clause.eval_blames e f hP

theorem Condition.evaluate_blames (p : Condition) (f : Frame)
    (hP : ∀ x ∈ p.faults Clause.faults, P x) : Blames P (p.evaluate f) :=
  Predicate.eval_blames Clause.eval_blames p f hP

/-! ## Aggregates -/

theorem Reduction.number_blames (c : Cell) : Blames P (Reduction.number c) := by
  unfold Reduction.number
  split
  · exact .ok _
  · exact .reject nofun

theorem Reduction.apply_blames (r : Reduction) (cells : List Cell) :
    Blames P (r.apply cells) := by
  have hnumbers : ∀ cs : List Cell, Blames P (cs.mapM Reduction.number) := fun cs =>
    .mapM fun c _ => Reduction.number_blames c
  cases r with
  | sum =>
    refine .bind (hnumbers _) fun _ _ => ?_
    split
    · exact .pure _
    · split
      · exact .pure _
      · exact .pure _
  | mean =>
    refine .bind (hnumbers _) fun _ _ => ?_
    split
    · exact .pure _
    · exact .pure _
  | min => exact .ok _
  | max => exact .ok _
  | count => exact .ok _
  | distinct => exact .ok _

/-- What is wrong with the texts of an aggregate. -/
def Aggregate.faults : Aggregate → List ReportError
  | reduce _ e => e.faults Clause.faults
  | countRows => []
  | ratio n d _ => n.faults Clause.faults ++ d.faults Clause.faults

theorem Aggregate.reduceGroups_blames (f : Frame) (groups : List (List Nat)) (r : Reduction)
    (e : Expr) (hP : ∀ x ∈ e.faults Clause.faults, P x) :
    Blames P (Aggregate.reduceGroups f groups r e) :=
  .bind (e.evaluate_blames f hP) fun _ _ => .mapM fun _ _ => Reduction.apply_blames _ _

/-- Evaluating an aggregate blames no texts but those with faults. -/
theorem Aggregate.eval_blames (a : Aggregate) (f : Frame) (groups : List (List Nat))
    (hP : ∀ x ∈ a.faults, P x) : Blames P (a.eval f groups) := by
  cases a with
  | reduce r e => exact reduceGroups_blames f groups r e hP
  | countRows => exact .ok _
  | ratio n d fill =>
    obtain ⟨hn, hd⟩ := List.forall_mem_append.mp hP
    refine .bind (reduceGroups_blames f groups .sum n hn) fun _ _ => ?_
    refine .bind (reduceGroups_blames f groups .sum d hd) fun _ _ => ?_
    exact .mapM fun _ _ => Cell.safeDivide_blames _ _ _

end

end Crosstab
