import Crosstab.Sql.Emit

/-!
# The two forms of division

A quotient may be written with the operator or with a value for where it would be null.  With zero
as that value the two forms are the same, wherever they stand: `Redivided` trees, which differ in
the forms of some quotients, have the same values and the same text
(`evaluate_sql_eq_of_redivided`).
-/

namespace Crosstab

open Sql (ClauseEmit)

/-! ## Other forms for some quotients -/

mutual

/-- The second scalar is the first one with some quotients, at any depth, written with the value
zero for where they would be null. -/
inductive Scalar.Redivided {κ : Type} : Scalar κ → Scalar κ → Prop where
  | same (e : Scalar κ) : Scalar.Redivided e e
  | div {l l' r r' : Scalar κ} : Scalar.Redivided l l' → Scalar.Redivided r r' →
    Scalar.Redivided (.binary .div l r) (.safeDiv l' r' Binary64.zero)
  | binary (op : BinaryOp) {l l' r r' : Scalar κ} :
    Scalar.Redivided l l' → Scalar.Redivided r r' →
      Scalar.Redivided (.binary op l r) (.binary op l' r')
  | safeDiv (fill : Binary64) {n n' m m' : Scalar κ} :
    Scalar.Redivided n n' → Scalar.Redivided m m' →
      Scalar.Redivided (.safeDiv n m fill) (.safeDiv n' m' fill)
  | coalesce {args args' : List (Scalar κ)} :
    Scalar.RedividedList args args' → Scalar.Redivided (.coalesce args) (.coalesce args')
  | caseWhen {bs bs' : List (Predicate κ × Scalar κ)} :
    Scalar.RedividedBranches bs bs' → Scalar.Redivided (.caseWhen bs none) (.caseWhen bs' none)
  | caseElse {bs bs' : List (Predicate κ × Scalar κ)} {e e' : Scalar κ} :
    Scalar.RedividedBranches bs bs' → Scalar.Redivided e e' →
      Scalar.Redivided (.caseWhen bs (some e)) (.caseWhen bs' (some e'))

/-- The scalars of the second list are those of the first one with some quotients rewritten. -/
inductive Scalar.RedividedList {κ : Type} : List (Scalar κ) → List (Scalar κ) → Prop where
  | nil : Scalar.RedividedList [] []
  | cons {e e' : Scalar κ} {es es' : List (Scalar κ)} :
    Scalar.Redivided e e' → Scalar.RedividedList es es' →
      Scalar.RedividedList (e :: es) (e' :: es')

/-- The branches of the second list are those of the first one with some quotients rewritten. -/
inductive Scalar.RedividedBranches {κ : Type} :
    List (Predicate κ × Scalar κ) → List (Predicate κ × Scalar κ) → Prop where
  | nil : Scalar.RedividedBranches [] []
  | cons {p p' : Predicate κ} {e e' : Scalar κ} {bs bs' : List (Predicate κ × Scalar κ)} :
    Predicate.Redivided p p' → Scalar.Redivided e e' → Scalar.RedividedBranches bs bs' →
      Scalar.RedividedBranches ((p, e) :: bs) ((p', e') :: bs')

/-- The second predicate is the first one with some quotients rewritten. -/
inductive Predicate.Redivided {κ : Type} : Predicate κ → Predicate κ → Prop where
  | same (p : Predicate κ) : Predicate.Redivided p p
  | compare (op : Comparison) {l l' r r' : Scalar κ} :
    Scalar.Redivided l l' → Scalar.Redivided r r' →
      Predicate.Redivided (.compare op l r) (.compare op l' r')
  | member (values : List Cell) {e e' : Scalar κ} :
    Scalar.Redivided e e' → Predicate.Redivided (.member e values) (.member e' values)
  | range (low high : Cell) (bounds : Bounds) {e e' : Scalar κ} :
    Scalar.Redivided e e' →
      Predicate.Redivided (.range e low high bounds) (.range e' low high bounds)
  | isNull {e e' : Scalar κ} :
    Scalar.Redivided e e' → Predicate.Redivided (.isNull e) (.isNull e')
  | join (op : Connective) {p p' q q' : Predicate κ} :
    Predicate.Redivided p p' → Predicate.Redivided q q' →
      Predicate.Redivided (.join op p q) (.join op p' q')
  | not {p p' : Predicate κ} : Predicate.Redivided p p' → Predicate.Redivided (.not p) (.not p')
  | like (ignoreCase negated : Bool) {e e' pattern pattern' : Scalar κ} :
    Scalar.Redivided e e' → Scalar.Redivided pattern pattern' →
      Predicate.Redivided (.like e pattern ignoreCase negated)
        (.like e' pattern' ignoreCase negated)
  | regex (flags : String) (negated : Bool) {e e' pattern pattern' : Scalar κ} :
    Scalar.Redivided e e' → Scalar.Redivided pattern pattern' →
      Predicate.Redivided (.regex e pattern flags negated) (.regex e' pattern' flags negated)

end

/-- The second aggregate is the first one with some quotients rewritten. -/
inductive Aggregate.Redivided : Aggregate → Aggregate → Prop where
  | same (a : Aggregate) : Redivided a a
  | reduce (r : Reduction) {e e' : Expr} :
    Scalar.Redivided e e' → Redivided (.reduce r e) (.reduce r e')
  | ratio (fill : Binary64) {n n' m m' : Expr} :
    Scalar.Redivided n n' → Scalar.Redivided m m' →
      Redivided (.ratio n m fill) (.ratio n' m' fill)

/-! ## Values -/

section

variable {κ : Type} {h : ClauseEval κ}

mutual

theorem Scalar.Redivided.eval_eq : ∀ {e e' : Scalar κ}, e.Redivided e' →
    ∀ f, e'.eval h f = e.eval h f
  | _, _, .same _, _ => rfl
  | _, _, .div hl hr, f => by
    simp only [Scalar.eval, Scalar.Redivided.eval_eq hl, Scalar.Redivided.eval_eq hr, Cell.operate]
  | _, _, .binary op hl hr, f => by
    simp only [Scalar.eval, Scalar.Redivided.eval_eq hl, Scalar.Redivided.eval_eq hr]
  | _, _, .safeDiv fill hn hm, f => by
    simp only [Scalar.eval, Scalar.Redivided.eval_eq hn, Scalar.Redivided.eval_eq hm]
  | _, _, .coalesce hargs, f => by
    simp only [Scalar.eval, Scalar.RedividedList.evalFirst_eq hargs]
  | _, _, .caseWhen hbs, f => by
    simp only [Scalar.eval, Scalar.RedividedBranches.evalBranches_eq hbs]
  | _, _, .caseElse hbs he, f => by
    simp only [Scalar.eval, Scalar.RedividedBranches.evalBranches_eq hbs,
      Scalar.Redivided.eval_eq he]
termination_by structural _ _ h => h

theorem Scalar.RedividedList.evalFirst_eq : ∀ {es es' : List (Scalar κ)},
    Scalar.RedividedList es es' → ∀ f out,
      Scalar.evalFirst h f out es' = Scalar.evalFirst h f out es
  | _, _, .nil, _, _ => rfl
  | _, _, .cons he hes, f, out => by
    simp only [Scalar.evalFirst, Scalar.Redivided.eval_eq he,
      Scalar.RedividedList.evalFirst_eq hes]
termination_by structural _ _ h => h

theorem Scalar.RedividedBranches.evalBranches_eq : ∀ {bs bs' : List (Predicate κ × Scalar κ)},
    Scalar.RedividedBranches bs bs' → ∀ f rows out,
      Scalar.evalBranches h f rows out bs' = Scalar.evalBranches h f rows out bs
  | _, _, .nil, _, _, _ => rfl
  | _, _, .cons hp he hbs, f, rows, out => by
    simp only [Scalar.evalBranches, Predicate.Redivided.eval_eq hp, Scalar.Redivided.eval_eq he,
      Scalar.RedividedBranches.evalBranches_eq hbs]
termination_by structural _ _ h => h

theorem Predicate.Redivided.eval_eq : ∀ {p p' : Predicate κ}, p.Redivided p' →
    ∀ f, p'.eval h f = p.eval h f
  | _, _, .same _, _ => rfl
  | _, _, .compare op hl hr, f => by
    simp only [Predicate.eval, Scalar.Redivided.eval_eq hl, Scalar.Redivided.eval_eq hr]
  | _, _, .member values he, f => by
    simp only [Predicate.eval, Scalar.Redivided.eval_eq he]
  | _, _, .range low high bounds he, f => by
    simp only [Predicate.eval, Scalar.Redivided.eval_eq he]
  | _, _, .isNull he, f => by
    simp only [Predicate.eval, Scalar.Redivided.eval_eq he]
  | _, _, .join op hp hq, f => by
    simp only [Predicate.eval, Predicate.Redivided.eval_eq hp, Predicate.Redivided.eval_eq hq]
  | _, _, .not hp, f => by
    simp only [Predicate.eval, Predicate.Redivided.eval_eq hp]
  | _, _, .like ignoreCase negated he hpattern, f => by
    simp only [Predicate.eval, Scalar.Redivided.eval_eq he, Scalar.Redivided.eval_eq hpattern]
  | _, _, .regex flags negated he hpattern, f => by
    simp only [Predicate.eval, Scalar.Redivided.eval_eq he, Scalar.Redivided.eval_eq hpattern]
termination_by structural _ _ h => h

end

end

theorem Aggregate.Redivided.eval_eq {a a' : Aggregate} (h : a.Redivided a') (f : Frame)
    (groups : List (List Nat)) : a'.eval f groups = a.eval f groups := by
  have hreduce : ∀ (r : Reduction) {e e' : Expr}, Scalar.Redivided e e' →
      reduceGroups f groups r e' = reduceGroups f groups r e := by
    intro r e e' he
    simp only [reduceGroups, Expr.evaluate, he.eval_eq]
  cases h with
  | same => rfl
  | reduce r he => exact hreduce r he
  | ratio fill hn hm => simp only [Aggregate.eval, hreduce .sum hn, hreduce .sum hm]

/-! ## Text -/

/-- The value zero can be written. -/
theorem Sql.quotient_zero (d : Dialect) (n m : List Sql.Token) :
    quotient d n m Binary64.zero = .ok (binary d .div n m) := rfl

section

variable {κ : Type} {w : ClauseEmit κ} {d : Dialect}

/-- A quotient is no literal. -/
theorem Scalar.Redivided.checkPattern_eq {e e' : Scalar κ} (h : e.Redivided e') (flags : String) :
    Sql.checkPattern e' flags = Sql.checkPattern e flags := by
  cases h <;> rfl

mutual

theorem Scalar.Redivided.emit_eq : ∀ {e e' : Scalar κ}, e.Redivided e' →
    e'.emit w d = e.emit w d
  | _, _, .same _ => rfl
  | _, _, .div hl hr => by
    simp only [Scalar.emit, Scalar.Redivided.emit_eq hl, Scalar.Redivided.emit_eq hr,
      Sql.quotient_zero]
    rfl
  | _, _, .binary op hl hr => by
    simp only [Scalar.emit, Scalar.Redivided.emit_eq hl, Scalar.Redivided.emit_eq hr]
  | _, _, .safeDiv fill hn hm => by
    simp only [Scalar.emit, Scalar.Redivided.emit_eq hn, Scalar.Redivided.emit_eq hm]
  | _, _, .coalesce hargs => by
    simp only [Scalar.emit, Scalar.RedividedList.emitList_eq hargs]
  | _, _, .caseWhen hbs => by
    -- Without branches nothing is written of a case distinction.
    have hbody := Scalar.RedividedBranches.emitBranches_eq hbs
    cases hbs with
    | nil => rfl
    | cons _ _ _ => simp only [Scalar.emit, hbody]
  | _, _, .caseElse hbs he => by
    have hbody := Scalar.RedividedBranches.emitBranches_eq hbs
    cases hbs with
    | nil => simp only [Scalar.emit, Scalar.Redivided.emit_eq he]
    | cons _ _ _ => simp only [Scalar.emit, hbody, Scalar.Redivided.emit_eq he]
termination_by structural _ _ h => h

theorem Scalar.RedividedList.emitList_eq : ∀ {es es' : List (Scalar κ)},
    Scalar.RedividedList es es' → Scalar.emitList w d es' = Scalar.emitList w d es
  | _, _, .nil => rfl
  | _, _, .cons he hes => by
    simp only [Scalar.emitList, Scalar.Redivided.emit_eq he,
      Scalar.RedividedList.emitList_eq hes]
termination_by structural _ _ h => h

theorem Scalar.RedividedBranches.emitBranches_eq : ∀ {bs bs' : List (Predicate κ × Scalar κ)},
    Scalar.RedividedBranches bs bs' → Scalar.emitBranches w d bs' = Scalar.emitBranches w d bs
  | _, _, .nil => rfl
  | _, _, .cons hp he hbs => by
    simp only [Scalar.emitBranches, Predicate.Redivided.emit_eq hp, Scalar.Redivided.emit_eq he,
      Scalar.RedividedBranches.emitBranches_eq hbs]
termination_by structural _ _ h => h

theorem Predicate.Redivided.emit_eq : ∀ {p p' : Predicate κ}, p.Redivided p' →
    p'.emit w d = p.emit w d
  | _, _, .same _ => rfl
  | _, _, .compare op hl hr => by
    simp only [Predicate.emit, Scalar.Redivided.emit_eq hl, Scalar.Redivided.emit_eq hr]
  | _, _, .member [] he => rfl
  | _, _, .member (v :: values) he => by
    simp only [Predicate.emit, Scalar.Redivided.emit_eq he]
  | _, _, .range low high bounds he => by
    simp only [Predicate.emit, Scalar.Redivided.emit_eq he]
  | _, _, .isNull he => by
    simp only [Predicate.emit, Scalar.Redivided.emit_eq he]
  | _, _, .join op hp hq => by
    simp only [Predicate.emit, Predicate.Redivided.emit_eq hp, Predicate.Redivided.emit_eq hq]
  | _, _, .not hp => by
    simp only [Predicate.emit, Predicate.Redivided.emit_eq hp]
  | _, _, .like ignoreCase negated he hpattern => by
    simp only [Predicate.emit, Scalar.Redivided.emit_eq he, Scalar.Redivided.emit_eq hpattern]
  | _, _, .regex flags negated he hpattern => by
    simp only [Predicate.emit, hpattern.checkPattern_eq, Scalar.Redivided.emit_eq he,
      Scalar.Redivided.emit_eq hpattern]
termination_by structural _ _ h => h

end

end

theorem Aggregate.Redivided.emit_eq {d : Dialect} {a a' : Aggregate} (h : a.Redivided a') :
    a'.emit d = a.emit d := by
  cases h with
  | same => rfl
  | reduce r he => simp only [Aggregate.emit, he.emit_eq]
  | ratio fill hn hm => simp only [Aggregate.emit, hn.emit_eq, hm.emit_eq]

/-- **Both forms of division mean the same.**  Where some quotients of an expression, a condition or
an aggregate have the value zero in place of the operator, at any depth, the values on every table
and the text in every dialect are the same, and so are the errors. -/
theorem evaluate_sql_eq_of_redivided :
    (∀ {e e' : Expr}, e.Redivided e' →
      (∀ f, e'.evaluate f = e.evaluate f) ∧ ∀ d, e'.sql d = e.sql d) ∧
    (∀ {p p' : Condition}, p.Redivided p' →
      (∀ f, p'.evaluate f = p.evaluate f) ∧ ∀ d, p'.sql d = p.sql d) ∧
    ∀ {a a' : Aggregate}, a.Redivided a' →
      (∀ f groups, a'.eval f groups = a.eval f groups) ∧ ∀ d, a'.sql d = a.sql d := by
  refine ⟨fun he => ⟨he.eval_eq, fun d => ?_⟩, fun hp => ⟨hp.eval_eq, fun d => ?_⟩,
    fun ha => ⟨ha.eval_eq, fun d => ?_⟩⟩
  · rw [Expr.sql, Expr.sql, he.emit_eq]
  · rw [Condition.sql, Condition.sql, hp.emit_eq]
  · rw [Aggregate.sql, Aggregate.sql, ha.emit_eq]

/-- The clicks for each view, divided by the days. -/
def clickRate : Expr :=
  .binary .div (.binary .div (.column "clicks") (.column "views")) (.column "days")

/-- The same rate; only the inner quotient has its value zero written out. -/
def filledRate : Expr :=
  .binary .div (.safeDiv (.column "clicks") (.column "views") Binary64.zero) (.column "days")

theorem redivided_clickRate : clickRate.Redivided filledRate :=
  .binary .div (.div (.same _) (.same _)) (.same _)

/-- Two days of a site, with views on one of them. -/
def siteDays : Frame :=
  ⟨[⟨"clicks", [.int 6, .int 1]⟩, ⟨"views", [.int 3, .int 0]⟩, ⟨"days", [.int 1, .int 1]⟩], 2⟩

/-- The rate of a site is the same, whichever form its inner quotient has. -/
theorem evaluate_sql_filledRate :
    clickRate.Redivided filledRate ∧
    filledRate.evaluate siteDays = clickRate.evaluate siteDays ∧
    filledRate.sql .bigquery = clickRate.sql .bigquery ∧
    Condition.evaluate (.isNull filledRate) siteDays =
      Condition.evaluate (.isNull clickRate) siteDays ∧
    Aggregate.sql .ansi (.reduce .max filledRate) =
      Aggregate.sql .ansi (.reduce .max clickRate) := by
  obtain ⟨hexpr, hcondition, haggregate⟩ := evaluate_sql_eq_of_redivided
  have hrate := hexpr redivided_clickRate
  have hnull : Predicate.Redivided (.isNull clickRate) (.isNull filledRate) :=
    .isNull redivided_clickRate
  have hmax : Aggregate.Redivided (.reduce .max clickRate) (.reduce .max filledRate) :=
    .reduce .max redivided_clickRate
  exact ⟨redivided_clickRate, hrate.1 siteDays, hrate.2 .bigquery, (hcondition hnull).1 siteDays,
    (haggregate hmax).2 .ansi⟩

end Crosstab
