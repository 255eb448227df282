import Crosstab.Proofs.Sql.Reread

/-!
# Conditions that say the same

SQL has several ways to say one thing: a membership is a disjunction of equalities, a range is two
comparisons, and a negation can be moved inwards.  `Predicate.Restated` lists these ways.  Both
sides of such a pair have the same truth value in every row of every table, unknown included, and
fail with the same error (`evaluate_eq_of_restated`).

Nulls and cells of different kinds are what could part the two sides: an equality next to a null is
unknown, one between kinds that do not compare is false, and a comparison between them is unknown.
So the laws are proved for cells first, then for one evaluated column, and last for tables.
-/

namespace Crosstab

/-! ## Laws of cells -/

namespace Comparison

/-- The comparison that holds where another one fails. -/
def complement : Comparison → Comparison
  | .eq => .ne
  | .ne => .eq
  | .gt => .le
  | .ge => .lt
  | .lt => .ge
  | .le => .gt

end Comparison

namespace Cell

/-- A comparison fails where the other one holds, and both are unknown together. -/
theorem satisfies_complement (op : Comparison) (a b : Cell) :
    satisfies op.complement a b = (satisfies op a b).not := by
  cases op with
  | eq => rfl
  | ne => simp [satisfies, Comparison.complement, Truth.not, Function.comp_def]
  | _ =>
    simp only [satisfies, Comparison.complement, Truth.not, Option.map_map]
    refine congrArg (Option.map · _) (funext fun o => ?_)
    cases o <;> rfl

/-- A member of a list with one value is equal to it. -/
theorem memberOf_singleton (c v : Cell) : c.memberOf [v] = c.satisfies .eq v := by
  by_cases hc : c.isNull = true
  · simp [memberOf, satisfies, sqlEq?, hc]
  by_cases hv : v.isNull = true
  · simp [memberOf, satisfies, sqlEq?, hc, hv]
  · by_cases heq : (c.compare? v == some .eq) = true <;>
      simp [memberOf, satisfies, sqlEq?, hc, hv, heq]

/-- A member of one of two lists, neither of them empty.  In an empty one even a null is no member,
so the law needs both to have values. -/
theorem memberOf_append (c : Cell) {vs ws : List Cell} (hvs : vs ≠ []) (hws : ws ≠ []) :
    c.memberOf (vs ++ ws) = (c.memberOf vs).or (c.memberOf ws) := by
  have hvs' : vs.isEmpty = false := List.isEmpty_eq_false_iff.mpr hvs
  have hws' : ws.isEmpty = false := List.isEmpty_eq_false_iff.mpr hws
  have hboth : (vs ++ ws).isEmpty = false := by simp [hvs]
  by_cases hc : c.isNull = true
  · simp [memberOf, hvs', hws', hboth, hc, Truth.or]
  · simp only [memberOf, hvs', hws', hboth, List.any_append, hc]
    cases vs.any fun v => c.sqlEq? v == some true <;>
      cases ws.any fun v => c.sqlEq? v == some true <;>
        cases vs.any isNull <;> cases ws.any isNull <;> rfl

end Cell

/-! ## Ways to say the same -/

namespace Predicate

variable {κ : Type}

/-- A disjunction of equalities of a scalar with some values, one for each, in the order of the
values and with any parentheses. -/
inductive EqualsAny (e : Scalar κ) : List Cell → Predicate κ → Prop where
  | one (v : Cell) : EqualsAny e [v] (.compare .eq e (.literal v))
  | or {vs ws : List Cell} {p q : Predicate κ} (hp : EqualsAny e vs p) (hq : EqualsAny e ws q) :
    EqualsAny e (vs ++ ws) (.join .or p q)

/-- The second predicate says in another way what the first one says. -/
inductive Restated : Predicate κ → Predicate κ → Prop where
  | member {e : Scalar κ} {values : List Cell} {p : Predicate κ} (hp : EqualsAny e values p) :
    Restated (.member e values) p
  | range (e : Scalar κ) (low high : Cell) (bounds : Bounds) :
    Restated (.range e low high bounds)
      (.join .and (.compare (if bounds.withLower then .ge else .gt) e (.literal low))
        (.compare (if bounds.withUpper then .le else .lt) e (.literal high)))
  | not_and (p q : Predicate κ) :
    Restated (.not (.join .and p q)) (.join .or (.not p) (.not q))
  | not_or (p q : Predicate κ) :
    Restated (.not (.join .or p q)) (.join .and (.not p) (.not q))
  | not_not (p : Predicate κ) : Restated (.not (.not p)) p
  | not_compare (op : Comparison) (l r : Scalar κ) :
    Restated (.not (.compare op l r)) (.compare op.complement l r)
  | like (e pattern : Scalar κ) (ignoreCase negated : Bool) :
    Restated (.like e pattern ignoreCase (!negated)) (.not (.like e pattern ignoreCase negated))
  | regex (e pattern : Scalar κ) (flags : String) (negated : Bool) :
    Restated (.regex e pattern flags (!negated)) (.not (.regex e pattern flags negated))

theorem EqualsAny.ne_nil {e : Scalar κ} {values : List Cell} {p : Predicate κ}
    (hp : EqualsAny e values p) : values ≠ [] := by
  induction hp with
  | one v => exact List.cons_ne_nil v []
  | or hp hq ihp ihq => simp [ihp]

/-! ## Evaluating both sides -/

variable {h : ClauseEval κ} {f : Frame} {e : Scalar κ}

/-- The scalar has a cell for each row of the table, if it has any value there. -/
def Fills (h : ClauseEval κ) (f : Frame) (e : Scalar κ) : Prop :=
  ∀ cs, e.eval h f = .ok cs → cs.length = f.len

theorem eval_member (values : List Cell) : (member e values).eval h f =
    (do return (← e.eval h f).map fun c => c.memberOf values) := rfl

theorem eval_not (p : Predicate κ) :
    (not p).eval h f = (do return (← p.eval h f).map Truth.not) := rfl

theorem eval_join (op : Connective) (p q : Predicate κ) : (join op p q).eval h f =
    (do
      let ts ← p.eval h f
      let us ← q.eval h f
      return (ts.zip us).map fun (t, u) => Truth.join op t u) := rfl

/-- A comparison with a literal is made cell by cell. -/
theorem eval_compare_value (he : Fills h f e) (op : Comparison) (v : Cell) :
    (compare op e (.literal v)).eval h f =
      (do return (← e.eval h f).map fun c => c.satisfies op v) := by
  show (e.eval h f >>= fun cs => _) = _
  cases hcs : e.eval h f with
  | error x => rfl
  | ok cs =>
    show Except.ok ((cs.zip (List.replicate f.len v)).map _) = _
    rw [zip_replicate (he cs hcs), List.map_map]
    rfl

/-- Two predicates that are evaluated cell by cell on one scalar are joined cell by cell. -/
theorem eval_join_of_cells {op : Connective} {p q : Predicate κ} {s t : Cell → Truth}
    (hp : p.eval h f = do return (← e.eval h f).map s)
    (hq : q.eval h f = do return (← e.eval h f).map t) :
    (join op p q).eval h f = do return (← e.eval h f).map fun c => Truth.join op (s c) (t c) := by
  rw [eval_join, hp, hq]
  cases e.eval h f with
  | error x => rfl
  | ok cs =>
    show Except.ok (((cs.map s).zip (cs.map t)).map _) = _
    rw [List.zip_map', List.map_map]
    rfl

/-- **A membership is a disjunction of equalities.** -/
theorem EqualsAny.eval_eq (he : Fills h f e) {values : List Cell} {p : Predicate κ}
    (hp : EqualsAny e values p) : p.eval h f = (member e values).eval h f := by
  induction hp with
  | one v =>
    rw [eval_compare_value he, eval_member]
    simp only [Cell.memberOf_singleton]
  | or hp hq ihp ihq =>
    rw [eval_join_of_cells ihp ihq, eval_member]
    simp only [Cell.memberOf_append _ hp.ne_nil hq.ne_nil]
    rfl

/-- **A range is a conjunction of comparisons with its bounds.** -/
theorem eval_range (he : Fills h f e) (low high : Cell) (bounds : Bounds) :
    (range e low high bounds).eval h f =
      (join .and (compare (if bounds.withLower then .ge else .gt) e (.literal low))
        (compare (if bounds.withUpper then .le else .lt) e (.literal high))).eval h f := by
  rw [eval_join_of_cells (eval_compare_value he _ low) (eval_compare_value he _ high)]
  show (do return (← e.eval h f).map fun c : Cell => c.inRange low high bounds) = _
  simp only [Cell.inRange_eq]
  rfl

/-- A negated connective is the other connective between the negated sides. -/
theorem eval_not_join {op other : Connective} (p q : Predicate κ)
    (hlaw : ∀ s t, (Truth.join op s t).not = Truth.join other s.not t.not) :
    (not (join op p q)).eval h f = (join other (not p) (not q)).eval h f := by
  simp only [eval_not, eval_join, bind_assoc, pure_bind, List.map_map, List.zip_map,
    Function.comp_def, hlaw, Prod.map]

theorem eval_not_not (p : Predicate κ) : (not (not p)).eval h f = p.eval h f := by
  simp only [eval_not, bind_assoc, pure_bind, List.map_map, Function.comp_def, Truth.not_not,
    List.map_id', bind_pure]

theorem eval_not_compare (op : Comparison) (l r : Scalar κ) :
    (not (compare op l r)).eval h f = (compare op.complement l r).eval h f := by
  show (do
      let ts ← (do
        let as ← l.eval h f
        let bs ← r.eval h f
        return (as.zip bs).map fun (a, b) => Cell.satisfies op a b)
      return ts.map Truth.not) =
    (do
      let as ← l.eval h f
      let bs ← r.eval h f
      return (as.zip bs).map fun (a, b) => Cell.satisfies op.complement a b)
  simp only [bind_assoc, pure_bind, List.map_map, Function.comp_def, Cell.satisfies_complement]

theorem eval_regex_negated (pattern : Scalar κ) (flags : String) :
    (regex e pattern flags true).eval h f = (not (regex e pattern flags false)).eval h f := by
  show (do
      let flags ← Pattern.normalFlags flags
      let cs ← e.eval h f
      let ps ← pattern.eval h f
      Cell.matchPatterns (fun s => Pattern.compile s flags) true none (cs.zip ps)) =
    (do
      let ts ← (do
        let flags ← Pattern.normalFlags flags
        let cs ← e.eval h f
        let ps ← pattern.eval h f
        Cell.matchPatterns (fun s => Pattern.compile s flags) false none (cs.zip ps))
      return ts.map Truth.not)
  simp only [bind_assoc, Cell.matchPatterns_negated]

/-- Both sides of a pair evaluate alike where scalars have a cell for each row. -/
theorem Restated.eval_eq (hfills : ∀ e : Scalar κ, Fills h f e) {p q : Predicate κ}
    (hpq : Restated p q) : p.eval h f = q.eval h f := by
  cases hpq with
  | member hp => exact (hp.eval_eq (hfills _)).symm
  | range e low high bounds => exact eval_range (hfills e) low high bounds
  | not_and p q => exact eval_not_join p q Truth.not_and
  | not_or p q => exact eval_not_join p q Truth.not_or
  | not_not => exact eval_not_not _
  | not_compare op l r => exact eval_not_compare op l r
  | like e pattern ignoreCase negated =>
    cases negated with
    | false => exact eval_like_negated
    | true =>
      rw [Bool.not_true, eval_not, eval_like_negated, ← eval_not, eval_not_not]
  | regex e pattern flags negated =>
    cases negated with
    | false => exact eval_regex_negated pattern flags
    | true =>
      rw [Bool.not_true, eval_not, eval_regex_negated, ← eval_not, eval_not_not]

end Predicate

/-! ## Conditions -/

/-- **Two ways to say one thing.**  A condition and what it is restated as have the same truth
value in every row of every table, or fail with the same error. -/
theorem evaluate_eq_of_restated {p q : Condition} (hpq : Predicate.Restated p q) {f : Frame}
    (hf : f.WellFormed) : p.evaluate f = q.evaluate f := by
  refine hpq.eval_eq ?_
  intro e cs hcs
  exact (Scalar.eval_follows Clause.eval_follows hf e hcs).length_eq

/-- Codes of several kinds, one of them missing and one not a number. -/
def mixedCodes : Frame :=
  ⟨[⟨"code", [.int 1, .null, .float ⟨0x7FF8000000000000⟩, .text "1", .int 2]⟩], 5⟩

/-- The code is among three values, one of them null. -/
def codeListed : Condition := .member (.column "code") [.int 1, .null, .text "1"]

/-- The code is equal to one of the three values. -/
def codeEqual : Condition :=
  .join .or (.join .or (.compare .eq (.column "code") (.literal (.int 1)))
      (.compare .eq (.column "code") (.literal .null)))
    (.compare .eq (.column "code") (.literal (.text "1")))

theorem restated_codeListed : Predicate.Restated codeListed codeEqual :=
  .member (.or (.or (.one (.int 1)) (.one .null)) (.one (.text "1")))

/-- The null among the values leaves open whether other codes are listed. -/
theorem evaluate_codeListed :
    Predicate.Restated codeListed codeEqual ∧ mixedCodes.WellFormed ∧
    codeListed.evaluate mixedCodes = codeEqual.evaluate mixedCodes ∧
    codeEqual.evaluate mixedCodes = .ok [some true, none, none, some true, none] := by
  have hcodes : mixedCodes.WellFormed := by decide
  exact ⟨restated_codeListed, hcodes, evaluate_eq_of_restated restated_codeListed hcodes, rfl⟩

end Crosstab
