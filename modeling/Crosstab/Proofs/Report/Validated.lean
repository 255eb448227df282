import Crosstab.Proofs.Expr.Faults
import Crosstab.Proofs.Report.Plan
import Crosstab.Report.Engine

/-!
# What validation keeps out

A specification that is validated has clauses that read and flags that are known, in its filters and
outside of the operands there (`Condition.check_eq_ok_iff`).  Validation does not look into operands
and measures, where case distinctions hold conditions of their own.  So a report may still fail for
a text, but only for one that stands there (`Spec.mem_hiddenFaults_of_report`); an example is
`Spec.validated_report_fails`.
-/

namespace Crosstab

/-! ## Checking conditions -/

theorem check_bind_eq_ok_iff {x y : Outcome Unit} :
    (do x; y : Outcome Unit) = .ok () ↔ x = .ok () ∧ y = .ok () := by
  rw [bind_eq_ok_iff]
  exact ⟨fun ⟨_, hx, hy⟩ => ⟨hx, hy⟩, fun ⟨hx, hy⟩ => ⟨(), hx, hy⟩⟩

/-- Checking a predicate succeeds if and only if its own texts have no faults. -/
theorem Predicate.check_eq_ok_iff {κ : Type} {h : κ → Outcome Unit} {F : κ → List ReportError}
    (hF : ∀ c, h c = .ok () ↔ F c = []) :
    ∀ p : Predicate κ, p.check h = .ok () ↔ p.ownFaults F = []
  | .join _ l r => by
    rw [check, check_bind_eq_ok_iff, check_eq_ok_iff hF l, check_eq_ok_iff hF r, ownFaults,
      List.append_eq_nil_iff]
  | .not p => check_eq_ok_iff hF p
  | .regex _ _ flags _ => by
    rw [check, ownFaults, bind_eq_ok_iff, faultsOf_eq_nil_iff]
    exact exists_congr fun normal => and_iff_left rfl
  | .clause c => hF c
  | .compare _ _ _ => iff_of_true rfl rfl
  | .member _ _ => iff_of_true rfl rfl
  | .range _ _ _ _ => iff_of_true rfl rfl
  | .isNull _ => iff_of_true rfl rfl
  | .like _ _ _ _ => iff_of_true rfl rfl
termination_by structural p => p

/-- What a clause stands for passes the check. -/
theorem Clause.check_eq_ok_iff (c : Clause) :
    (do (← c.parsed).check noClauses : Outcome Unit) = .ok () ↔ c.faults = [] := by
  rw [bind_eq_ok_iff, faults, faultsOf_eq_nil_iff]
  constructor
  · rintro ⟨p, hp, -⟩
    exact ⟨p, hp⟩
  · rintro ⟨p, hp⟩
    have hnone : p.faults noClauses = [] := p.faults_of_elementary (elementary_of_parsed hp)
    have hown : p.ownFaults noClauses = [] := by
      refine List.eq_nil_iff_forall_not_mem.mpr fun e he => ?_
      have hmem : e ∈ p.faults noClauses := p.mem_faults_iff.mpr (.inl he)
      rw [hnone] at hmem
      cases hmem
    exact ⟨p, hp, (Predicate.check_eq_ok_iff (fun c => nomatch c) p).mpr hown⟩

/-- Checking a condition succeeds if and only if its own texts have no faults. -/
theorem Condition.check_eq_ok_iff (p : Condition) :
    p.check = .ok () ↔ p.ownFaults Clause.faults = [] :=
  Predicate.check_eq_ok_iff Clause.check_eq_ok_iff p

namespace Spec

/-! ## Texts that validation does not look at -/

/-- The filters of rows and groups. -/
def conditions (s : Spec) : List Condition := s.filter.toList ++ s.having.toList

/-- What is wrong with the texts in the operands of filters and in measures. -/
def hiddenFaults (s : Spec) : List ReportError :=
  s.conditions.flatMap (fun p => p.operandFaults Clause.faults) ++
    s.metrics.flatMap fun m => m.aggregate.faults

theorem check_of_validate {s : Spec} (h : s.validate = .ok ()) {p : Condition}
    (hp : p ∈ s.conditions) : p.check = .ok () :=
  (validate_eq_ok_iff.mp h).2.2 p hp

/-- Of a filter that is validated, only the operands have faults. -/
theorem mem_hiddenFaults_of_condition {s : Spec} (h : s.validate = .ok ()) {p : Condition}
    (hp : p ∈ s.conditions) {e : ReportError} (he : e ∈ p.faults Clause.faults) :
    e ∈ s.hiddenFaults := by
  have hown : p.ownFaults Clause.faults = [] := p.check_eq_ok_iff.mp (check_of_validate h hp)
  have hoperand : e ∈ p.operandFaults Clause.faults := by
    rcases p.mem_faults_iff.mp he with he | he
    · rw [hown] at he
      cases he
    · exact he
  exact List.mem_append_left _ (List.mem_flatMap.mpr ⟨p, hp, hoperand⟩)

theorem mem_hiddenFaults_of_measure {s : Spec} {m : Measure} (hm : m ∈ s.metrics)
    {e : ReportError} (he : e ∈ m.aggregate.faults) : e ∈ s.hiddenFaults :=
  List.mem_append_right _ (List.mem_flatMap.mpr ⟨m, hm, he⟩)

end Spec

/-! ## Steps of a report -/

section

variable {P : ReportError → Prop}

theorem Frame.insert_blames (f : Frame) (c : Column) : Blames P (f.insert c) := by
  unfold Frame.insert
  generalize (if (f.columns.isEmpty && f.len == 0) = true then c.values.length else f.len) = len
  dsimp only
  split
  · exact .ok _
  · exact .reject nofun

theorem Frame.groups_blames (f : Frame) (keys : List String) : Blames P (f.groups keys) := by
  unfold Frame.groups
  split
  · exact .ok _
  · exact .bind (.mapM fun _ _ => f.require_blames _) fun _ _ => .pure _

theorem Frame.restrict_blames (f : Frame) (condition : Option Condition)
    (hP : ∀ p ∈ condition, ∀ e ∈ Predicate.faults Clause.faults p, P e) :
    Blames P (f.restrict condition) := by
  cases condition with
  | none => exact .ok _
  | some p =>
    have hmask : Blames P (p.mask f) :=
      .bind (p.evaluate_blames f (hP p rfl)) fun _ _ => .pure _
    exact .bind hmask fun _ _ => .pure _

theorem Dataset.attach_blames (ds : Dataset) (c : Column) : Blames P (ds.attach c) := by
  unfold Dataset.attach
  split
  · exact .ok _
  · split
    · exact .reject nofun
    · exact .ok _

theorem Dimension.grain_blames (d : Dimension) : Blames P d.grain := by
  unfold Dimension.grain
  split
  · exact .ok _
  · refine .map ?_ _
    unfold TimeGrain.ofName
    split
    · exact .ok _
    · exact .reject nofun

theorem Plan.resolve_blames (ds : Dataset) (d : Dimension) :
    Blames P (Plan.resolve .here ds d) := by
  have hkey : Blames P (d.resolve ds.base) := by
    refine .bind (ds.base.require_blames _) fun _ _ => ?_
    refine .bind d.grain_blames fun g _ => ?_
    cases g with
    | none => exact .pure _
    | some g => exact .pure _
  refine .bind hkey fun key _ => ?_
  obtain ⟨key, buckets⟩ := key
  cases buckets with
  | none => exact .pure _
  | some c => exact .bind (ds.attach_blames c) fun _ _ => .pure _

theorem Plan.resolveAll_blames (ds : Dataset) (dims : List Dimension) :
    Blames P (Plan.resolveAll .here ds dims).2 := by
  induction dims generalizing ds with
  | nil => exact .ok _
  | cons d rest ih =>
    unfold Plan.resolveAll
    split
    · next e he =>
      have h : Blames P (Plan.resolve .here ds d) := Plan.resolve_blames ds d
      rw [he] at h
      exact h.error
    · next key ds' _ => exact .map (ih ds') _

/-- Sorting blames no text. -/
theorem Frame.pivotWith_blames {ε : Type} (σ : Sorter ε) (f : Frame) (p : Plan) (s : Spec) :
    FailsOnly (Sum.elim (fun _ => True) fun e => e.OfText → P e) (f.pivotWith σ p s) := by
  have houtputs : ∀ metrics, Blames P (OutputColumn.all f metrics p.columnKeys) := by
    intro metrics
    unfold OutputColumn.all
    split
    · exact .ok _
    · exact .bind (f.groups_blames _) fun _ _ => .pure _
  have hcolumns : ∀ names : List String, Blames P (names.mapM f.require) :=
    fun names => .mapM fun _ _ => f.require_blames _
  have hfault : ∀ {α : Type} {x : Outcome α}, Blames P x →
      FailsOnly (Sum.elim (fun _ => True) fun e => e.OfText → P e)
        (x.mapError (Sum.inr : ReportError → ε ⊕ ReportError)) := fun hx => .mapError hx
  have hsort : ∀ {α : Type} (x : Except ε α),
      FailsOnly (Sum.elim (fun _ => True) fun e => e.OfText → P e)
        (x.mapError (Sum.inl : ε → ε ⊕ ReportError)) := fun _ => .mapError fun _ _ => trivial
  refine .bind (hfault (hcolumns _)) fun metrics _ => ?_
  refine .bind (hfault (houtputs metrics)) fun outputs _ => ?_
  refine .bind (hfault (hcolumns _)) fun keyColumns _ => ?_
  refine .bind (hfault (f.groups_blames _)) fun groups _ => ?_
  refine .bind (hsort _) fun groups _ => ?_
  refine .bind (.mapM fun slice _ => ?_) fun _ _ => .pure _
  refine .bind ?_ fun table _ => .bind (hsort _) fun _ _ => .pure _
  refine .bind (hfault (Frame.groups_blames _ _)) fun groups _ => ?_
  exact .bind (hsort _) fun _ _ => .pure _

theorem Frame.pivot_blames (f : Frame) (p : Plan) (s : Spec) : Blames P (f.pivot p s) := by
  refine FailsOnly.mapError ((f.pivotWith_blames (P := P) .merging p s).imp ?_)
  intro e he
  cases e with
  | inl e => exact e.elim
  | inr e => exact he

end

namespace Spec

/-- The grouped table of a report blames only texts that validation does not look at. -/
theorem grouped_blames {s : Spec} (h : s.validate = .ok ()) (ds : Dataset) (p : Plan) :
    Blames (· ∈ s.hiddenFaults) (s.grouped ds p) := by
  have hframe : Blames (· ∈ s.hiddenFaults) ds.frame := .foldlM Frame.insert_blames _ _
  have hmeasures : ∀ (f : Frame) (groups : List Frame.Group),
      Blames (· ∈ s.hiddenFaults) (s.measureColumns f groups) := by
    intro f groups
    unfold measureColumns
    split
    · exact .ok _
    · refine .mapM fun m hm => .bind ?_ fun _ _ => .pure _
      exact m.aggregate.eval_blames f _ fun e he => mem_hiddenFaults_of_measure hm he
  refine .bind hframe fun f _ => ?_
  refine .bind (f.restrict_blames s.filter ?_) fun rows _ => ?_
  · intro q hq e he
    exact mem_hiddenFaults_of_condition h
      (List.mem_append_left _ (Option.mem_toList.mpr hq)) he
  refine .bind (rows.groups_blames _) fun groups _ => ?_
  refine .bind (hmeasures rows groups) fun measures _ => ?_
  refine .bind (.foldlM Frame.insert_blames _ _) fun table _ => ?_
  refine table.restrict_blames s.having ?_
  intro q hq e he
  exact mem_hiddenFaults_of_condition h
    (List.mem_append_right _ (Option.mem_toList.mpr hq)) he

/-- **What validation leaves.**  A report of a specification that is validated fails for a clause
that does not read or for a flag that is unknown only if this stands in an operand of a filter or in
a measure. -/
theorem mem_hiddenFaults_of_report {s : Spec} (h : s.validate = .ok ()) (ds : Dataset)
    {e : ReportError} (he : (ds.report s).2 = .error e) (htext : e.OfText) :
    e ∈ s.hiddenFaults := by
  have hplan : Blames (· ∈ s.hiddenFaults) (s.plan .here ds).2 := by
    unfold plan
    rw [h]
    exact .map (Plan.resolveAll_blames ds s.dimensions) _
  have hreport : Blames (· ∈ s.hiddenFaults) (ds.report s).2 := by
    refine .bind hplan fun p _ => .bind (grouped_blames h _ p) fun f _ => ?_
    exact f.pivot_blames p s
  exact hreport e he htext

/-! ## A report that fails -/

/-- A clause with a sign too many. -/
def doubledSign : Clause := ⟨"x = = 1", .ansi⟩

/-- What is wrong with it: an expression is expected where the second sign is. -/
def secondSign : ReportError := .clause ⟨.expressionExpected, 4, some "="⟩

theorem parsed_doubledSign : doubledSign.parsed = .error secondSign := by
  have hbody : String.ofList (Clause.body "x = = 1") = "x = = 1" := by decide +kernel
  have hlexemes : Clause.lexemes "x = = 1" =
      .ok [⟨.name "x", 0, 1, "x"⟩, ⟨.sign .equal, 2, 3, "="⟩, ⟨.sign .equal, 4, 5, "="⟩,
        ⟨.number "1", 6, 7, "1"⟩] := rfl
  have hread : Clause.predicateOf "x = = 1" = .error ⟨.expressionExpected, 4, some "="⟩ := by
    rw [Clause.predicateOf, hlexemes, ok_bind]
    rfl
  rw [doubledSign, Clause.parsed, Clause.predicate, hbody, hread]
  rfl

/-- A sum over the rows in which the clause holds. -/
def conditionalSum : Aggregate :=
  .reduce .sum (.caseWhen [(.clause doubledSign, .column "x")] none)

/-- A report of this sum. -/
def sumReport : Spec := { metrics := [.group "n" conditionalSum] }

/-- One row. -/
def oneRow : Frame := ⟨[⟨"x", [.int 1]⟩], 1⟩

/-- A case distinction evaluates its first condition, if there are rows. -/
theorem eval_caseWhen_of_error {h : ClauseEval Clause} {c : Clause} {x : ReportError}
    (hc : ∀ f, h c f = .error x) {f : Frame} (hf : f.len ≠ 0) (e : Expr) :
    Scalar.eval h f (.caseWhen [(.clause c, e)] none) = .error x := by
  have hrows : (List.range f.len).isEmpty = false := by simpa using hf
  simp only [Scalar.eval, Scalar.evalBranches, hrows, Predicate.eval, hc]
  rfl

theorem column_conditionalSum (groups : List Frame.Group) :
    Measure.column (.group "n" conditionalSum) oneRow groups = .error secondSign := by
  have hclause : ∀ f, Clause.eval doubledSign f = .error secondSign := by
    intro f
    rw [Clause.eval, parsed_doubledSign, error_bind]
  rw [Measure.column, Measure.aggregate, conditionalSum, Aggregate.eval, Aggregate.reduceGroups,
    Expr.evaluate, eval_caseWhen_of_error hclause (by decide), error_bind, error_bind]

theorem report_sumReport : ((Dataset.ofFrame oneRow).report sumReport).2 = .error secondSign := by
  have hplan : sumReport.plan .here (.ofFrame oneRow) =
      (.ofFrame oneRow, .ok (sumReport.planOf .here [])) := rfl
  have hrows : oneRow.restrict sumReport.filter = .ok oneRow := rfl
  have hgroups : oneRow.groups (sumReport.planOf .here []).groupKeys = .ok [([], [0])] := rfl
  have hmeasures : sumReport.measureColumns oneRow [([], [0])] =
      [Measure.group "n" conditionalSum].mapM fun m => m.column oneRow [([], [0])] := rfl
  have hgrouped : sumReport.grouped (.ofFrame oneRow) (sumReport.planOf .here []) =
      .error secondSign := by
    rw [grouped, Dataset.frame_ofFrame, ok_bind, hrows, ok_bind, hgroups, ok_bind, hmeasures,
      List.mapM_cons, column_conditionalSum, error_bind, error_bind]
  unfold Dataset.report
  rw [hplan]
  dsimp only [Except.bind]
  rw [computed, hgrouped, error_bind]

/-- The clause that does not read stands in a measure. -/
theorem mem_hiddenFaults_sumReport : secondSign ∈ sumReport.hiddenFaults :=
  mem_hiddenFaults_of_report rfl (.ofFrame oneRow) report_sumReport trivial

/-- **A report that is validated fails for a clause that does not read.** -/
theorem validated_report_fails : sumReport.validate = .ok () ∧
    ((Dataset.ofFrame oneRow).report sumReport).2 = .error secondSign ∧ secondSign.OfText :=
  ⟨rfl, report_sumReport, trivial⟩

end Spec

end Crosstab
