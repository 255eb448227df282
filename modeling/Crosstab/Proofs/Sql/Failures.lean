import Crosstab.Proofs.Report.Sent
import Crosstab.Proofs.Sql.Aliased

/-!
# What cannot be written in any dialect

Dialects write the same things in different ways, but what they cannot write is the same: a literal
that is not finite, a regular expression that is refused, a clause that does not read.  Which of
these is met first is a matter of the order in which the parts of an expression are written, and
that does not depend on the dialect either (`Scalar.emit_failsAlike`, `Predicate.emit_failsAlike`).

So a statement that one engine can be sent can be sent to every other one
(`Spec.query_failsAlike`), although the filter of its groups is made from texts that differ.
-/

namespace Crosstab

open Sql (Token ClauseEmit)

/-! ## Failing alike -/

section

variable {ε α β γ δ : Type}

/-- Two outcomes fail alike if they fail with the same error, or none of them fails. -/
def FailsAlike (x : Except ε α) (y : Except ε β) : Prop := ∀ e, x = .error e ↔ y = .error e

namespace FailsAlike

variable {x : Except ε α} {y : Except ε β} {z : Except ε γ}

@[refl] theorem refl (x : Except ε α) : FailsAlike x x := fun _ => Iff.rfl

theorem symm (h : FailsAlike x y) : FailsAlike y x := fun e => (h e).symm

theorem trans (hxy : FailsAlike x y) (hyz : FailsAlike y z) : FailsAlike x z := fun e =>
  (hxy e).trans (hyz e)

/-- What does not fail does so alike. -/
theorem ok (a : α) (b : β) : FailsAlike (.ok a : Except ε α) (.ok b) := fun _ =>
  iff_of_false nofun nofun

theorem error (e : ε) : FailsAlike (.error e : Except ε α) (.error e : Except ε β) := fun _ => by
  rw [Except.error.injEq, Except.error.injEq]

/-- What fails alike succeeds alike. -/
theorem exists_ok (h : FailsAlike x y) : (∃ a, x = .ok a) ↔ ∃ b, y = .ok b := by
  cases x with
  | error e =>
    rw [(h e).mp rfl]
    exact iff_of_false nofun nofun
  | ok a =>
    cases y with
    | error e => exact absurd ((h e).mpr rfl) nofun
    | ok b => exact iff_of_true ⟨a, rfl⟩ ⟨b, rfl⟩

/-- Steps that fail alike, whatever the earlier ones gave, make up chains that fail alike. -/
theorem bind (h : FailsAlike x y) {f : α → Except ε γ} {g : β → Except ε δ}
    (hfg : ∀ a b, x = .ok a → y = .ok b → FailsAlike (f a) (g b)) :
    FailsAlike (x >>= f) (y >>= g) := by
  cases x with
  | error e =>
    rw [(h e).mp rfl]
    exact error e
  | ok a =>
    cases y with
    | error e => exact absurd ((h e).mpr rfl) nofun
    | ok b => exact hfg a b rfl rfl

/-- Steps after the same step. -/
theorem after (x : Except ε α) {f : α → Except ε γ} {g : α → Except ε δ}
    (hfg : ∀ a, FailsAlike (f a) (g a)) : FailsAlike (x >>= f) (x >>= g) := by
  cases x with
  | error e => exact error e
  | ok a => exact hfg a

/-- What is made of an outcome fails as the outcome does. -/
theorem of_map (f : α → γ) (x : Except ε α) : FailsAlike (f <$> x) x := by
  cases x with
  | error e => exact error e
  | ok a => exact ok _ _

/-- So do two things made of outcomes that fail alike. -/
theorem bind_pure (h : FailsAlike x y) (f : α → γ) (g : β → δ) :
    FailsAlike (x >>= fun a => pure (f a)) (y >>= fun b => pure (g b)) :=
  h.bind fun _ _ _ _ => ok _ _

/-- One step for every member. -/
theorem mapM {ι : Type} {f : ι → Except ε α} {g : ι → Except ε β} {is : List ι}
    (h : ∀ i ∈ is, FailsAlike (f i) (g i)) : FailsAlike (is.mapM f) (is.mapM g) := by
  induction is with
  | nil => exact ok _ _
  | cons i is ih =>
    rw [List.mapM_cons, List.mapM_cons]
    refine (h i List.mem_cons_self).bind fun _ _ _ _ => ?_
    exact (ih fun j hj => h j (List.mem_cons_of_mem _ hj)).bind_pure _ _

/-- One step for what may be there. -/
theorem mapM_option {ι : Type} {f : ι → Except ε α} {g : ι → Except ε β} (i : Option ι)
    (h : ∀ i, FailsAlike (f i) (g i)) : FailsAlike (i.mapM f) (i.mapM g) := by
  cases i with
  | none => exact ok _ _
  | some i => exact (h i).bind_pure some some

end FailsAlike

end

/-! ## Scalars and predicates -/

theorem Sql.quotient_failsAlike (d d' : Dialect) (n m n' m' : List Token) (fill : Binary64) :
    FailsAlike (quotient d n m fill) (quotient d' n' m' fill) := by
  unfold quotient
  split
  · exact .ok _ _
  · exact .refl _

section

variable {κ : Type} {h h' : ClauseEmit κ}

mutual

theorem Scalar.emit_failsAlike (hC : ∀ c, FailsAlike (h c) (h' c)) (d d' : Dialect) :
    ∀ e : Scalar κ, FailsAlike (e.emit h d) (e.emit h' d')
  | .column _ => .ok _ _
  | .literal _ => .after _ fun _ => .ok _ _
  | .binary _ l r => by
    simp only [Scalar.emit]
    refine (l.emit_failsAlike hC d d').bind fun _ _ _ _ => ?_
    exact (r.emit_failsAlike hC d d').bind_pure _ _
  | .safeDiv n m fill => by
    simp only [Scalar.emit]
    refine (n.emit_failsAlike hC d d').bind fun _ _ _ _ => ?_
    exact (m.emit_failsAlike hC d d').bind fun _ _ _ _ => Sql.quotient_failsAlike d d' _ _ _ _ fill
  | .coalesce args => by
    simp only [Scalar.emit]
    refine (Scalar.emitList_failsAlike hC d d' args).bind fun forms forms' _ _ => ?_
    cases forms <;> cases forms' <;> exact .ok _ _
  | .caseWhen [] none => .ok _ _
  | .caseWhen [] (some last) => last.emit_failsAlike hC d d'
  | .caseWhen (b :: branches) none => by
    simp only [Scalar.emit]
    exact (Scalar.emitBranches_failsAlike hC d d' (b :: branches)).bind_pure _ _
  | .caseWhen (b :: branches) (some last) => by
    simp only [Scalar.emit]
    refine (Scalar.emitBranches_failsAlike hC d d' (b :: branches)).bind fun _ _ _ _ => ?_
    exact (last.emit_failsAlike hC d d').bind_pure _ _
  | .fragment _ => .ok _ _
termination_by structural e => e

theorem Scalar.emitList_failsAlike (hC : ∀ c, FailsAlike (h c) (h' c)) (d d' : Dialect) :
    ∀ es : List (Scalar κ), FailsAlike (Scalar.emitList h d es) (Scalar.emitList h' d' es)
  | [] => .ok _ _
  | e :: rest => by
    simp only [Scalar.emitList]
    refine (e.emit_failsAlike hC d d').bind fun _ _ _ _ => ?_
    exact (Scalar.emitList_failsAlike hC d d' rest).bind_pure _ _
termination_by structural es => es

theorem Scalar.emitBranches_failsAlike (hC : ∀ c, FailsAlike (h c) (h' c)) (d d' : Dialect) :
    ∀ bs : List (Predicate κ × Scalar κ),
      FailsAlike (Scalar.emitBranches h d bs) (Scalar.emitBranches h' d' bs)
  | [] => .ok _ _
  | (p, e) :: rest => by
    simp only [Scalar.emitBranches]
    refine (p.emit_failsAlike hC d d').bind fun _ _ _ _ => ?_
    refine (e.emit_failsAlike hC d d').bind fun _ _ _ _ => ?_
    exact (Scalar.emitBranches_failsAlike hC d d' rest).bind_pure _ _
termination_by structural bs => bs

/-- Where clauses fail alike, predicates do. -/
theorem Predicate.emit_failsAlike (hC : ∀ c, FailsAlike (h c) (h' c)) (d d' : Dialect) :
    ∀ p : Predicate κ, FailsAlike (p.emit h d) (p.emit h' d')
  | .compare _ l r => by
    simp only [Predicate.emit]
    refine (l.emit_failsAlike hC d d').bind fun _ _ _ _ => ?_
    exact (r.emit_failsAlike hC d d').bind_pure _ _
  | .member _ [] => .ok _ _
  | .member e (v :: values) => by
    simp only [Predicate.emit]
    refine (e.emit_failsAlike hC d d').bind fun _ _ _ _ => ?_
    exact (FailsAlike.refl _).bind_pure _ _
  | .range e low high _ => by
    simp only [Predicate.emit]
    refine (e.emit_failsAlike hC d d').bind fun _ _ _ _ => ?_
    refine (FailsAlike.refl (Sql.literal low)).bind fun _ _ _ _ => ?_
    exact (FailsAlike.refl (Sql.literal high)).bind_pure _ _
  | .isNull e => by
    simp only [Predicate.emit]
    exact (e.emit_failsAlike hC d d').bind_pure _ _
  | .join _ l r => by
    simp only [Predicate.emit]
    refine (l.emit_failsAlike hC d d').bind fun _ _ _ _ => ?_
    exact (r.emit_failsAlike hC d d').bind_pure _ _
  | .not p => by
    simp only [Predicate.emit]
    exact (p.emit_failsAlike hC d d').bind_pure _ _
  | .like e pattern _ _ => by
    simp only [Predicate.emit]
    refine (e.emit_failsAlike hC d d').bind fun _ _ _ _ => ?_
    exact (pattern.emit_failsAlike hC d d').bind_pure _ _
  | .regex e pattern flags _ => by
    simp only [Predicate.emit]
    -- flags and pattern are checked before anything is written, and without the dialect
    refine .after _ fun flags => .after _ fun _ => ?_
    refine (e.emit_failsAlike hC d d').bind fun _ _ _ _ => ?_
    exact (pattern.emit_failsAlike hC d d').bind_pure _ _
  | .clause c => hC c
termination_by structural p => p

end

end

/-! ## Clauses, aggregates and measures -/

theorem noClauses_failsAlike {α β : Type} (c : Empty) :
    FailsAlike (noClauses c : Outcome α) (noClauses c : Outcome β) := nomatch c

/-- A clause is read before it is written, and read without the dialect. -/
theorem Clause.emit_failsAlike (d d' : Dialect) (c : Clause) :
    FailsAlike (c.emit d) (c.emit d') :=
  .after _ fun p => p.emit_failsAlike noClauses_failsAlike d d'

theorem Expr.emit_failsAlike (d d' : Dialect) (e : Expr) :
    FailsAlike (e.emit (Clause.emit d) d) (e.emit (Clause.emit d') d') :=
  Scalar.emit_failsAlike (Clause.emit_failsAlike d d') d d' e

theorem Condition.emit_failsAlike (d d' : Dialect) (p : Condition) :
    FailsAlike (p.emit (Clause.emit d) d) (p.emit (Clause.emit d') d') :=
  Predicate.emit_failsAlike (Clause.emit_failsAlike d d') d d' p

theorem Aggregate.emit_failsAlike (d d' : Dialect) (a : Aggregate) :
    FailsAlike (a.emit d) (a.emit d') := by
  cases a with
  | reduce r e => exact (Expr.emit_failsAlike d d' e).bind_pure _ _
  | countRows => exact .ok _ _
  | ratio n m fill =>
    refine (Expr.emit_failsAlike d d' n).bind fun _ _ _ _ => ?_
    exact (Expr.emit_failsAlike d d' m).bind fun _ _ _ _ =>
      Sql.quotient_failsAlike d d' _ _ _ _ fill

/-! ## Filters of groups -/

section

variable {κ : Type} {h h' : κ → Outcome PlainCondition}

mutual

theorem Scalar.substitute_failsAlike (hC : ∀ c, FailsAlike (h c) (h' c)) (as as' : Aliases) :
    ∀ e : Scalar κ, FailsAlike (e.substitute h as) (e.substitute h' as')
  | .column name => by
    rw [Scalar.substitute_column, Scalar.substitute_column]
    exact .ok _ _
  | .literal _ => .ok _ _
  | .binary _ l r => by
    simp only [Scalar.substitute]
    refine (l.substitute_failsAlike hC as as').bind fun _ _ _ _ => ?_
    exact (r.substitute_failsAlike hC as as').bind_pure _ _
  | .safeDiv n m _ => by
    simp only [Scalar.substitute]
    refine (n.substitute_failsAlike hC as as').bind fun _ _ _ _ => ?_
    exact (m.substitute_failsAlike hC as as').bind_pure _ _
  | .coalesce args => by
    simp only [Scalar.substitute]
    exact (Scalar.substituteList_failsAlike hC as as' args).bind_pure _ _
  | .caseWhen branches none => by
    simp only [Scalar.substitute]
    exact (Scalar.substituteBranches_failsAlike hC as as' branches).bind_pure _ _
  | .caseWhen branches (some last) => by
    simp only [Scalar.substitute]
    refine (Scalar.substituteBranches_failsAlike hC as as' branches).bind fun _ _ _ _ => ?_
    exact (last.substitute_failsAlike hC as as').bind_pure _ _
  | .fragment _ => .ok _ _
termination_by structural e => e

theorem Scalar.substituteList_failsAlike (hC : ∀ c, FailsAlike (h c) (h' c)) (as as' : Aliases) :
    ∀ es : List (Scalar κ),
      FailsAlike (Scalar.substituteList h as es) (Scalar.substituteList h' as' es)
  | [] => .ok _ _
  | e :: rest => by
    simp only [Scalar.substituteList]
    refine (e.substitute_failsAlike hC as as').bind fun _ _ _ _ => ?_
    exact (Scalar.substituteList_failsAlike hC as as' rest).bind_pure _ _
termination_by structural es => es

theorem Scalar.substituteBranches_failsAlike (hC : ∀ c, FailsAlike (h c) (h' c))
    (as as' : Aliases) : ∀ bs : List (Predicate κ × Scalar κ),
      FailsAlike (Scalar.substituteBranches h as bs) (Scalar.substituteBranches h' as' bs)
  | [] => .ok _ _
  | (p, e) :: rest => by
    simp only [Scalar.substituteBranches]
    refine (p.substitute_failsAlike hC as as').bind fun _ _ _ _ => ?_
    refine (e.substitute_failsAlike hC as as').bind fun _ _ _ _ => ?_
    exact (Scalar.substituteBranches_failsAlike hC as as' rest).bind_pure _ _
termination_by structural bs => bs

/-- Only clauses make that texts cannot be put in, whatever the texts are. -/
theorem Predicate.substitute_failsAlike (hC : ∀ c, FailsAlike (h c) (h' c)) (as as' : Aliases) :
    ∀ p : Predicate κ, FailsAlike (p.substitute h as) (p.substitute h' as')
  | .compare _ l r => by
    simp only [Predicate.substitute]
    refine (l.substitute_failsAlike hC as as').bind fun _ _ _ _ => ?_
    exact (r.substitute_failsAlike hC as as').bind_pure _ _
  | .member e _ => by
    simp only [Predicate.substitute]
    exact (e.substitute_failsAlike hC as as').bind_pure _ _
  | .range e _ _ _ => by
    simp only [Predicate.substitute]
    exact (e.substitute_failsAlike hC as as').bind_pure _ _
  | .isNull e => by
    simp only [Predicate.substitute]
    exact (e.substitute_failsAlike hC as as').bind_pure _ _
  | .join _ l r => by
    simp only [Predicate.substitute]
    refine (l.substitute_failsAlike hC as as').bind fun _ _ _ _ => ?_
    exact (r.substitute_failsAlike hC as as').bind_pure _ _
  | .not p => by
    simp only [Predicate.substitute]
    exact (p.substitute_failsAlike hC as as').bind_pure _ _
  | .like e pattern _ _ => by
    simp only [Predicate.substitute]
    refine (e.substitute_failsAlike hC as as').bind fun _ _ _ _ => ?_
    exact (pattern.substitute_failsAlike hC as as').bind_pure _ _
  | .regex e pattern _ _ => by
    simp only [Predicate.substitute]
    refine (e.substitute_failsAlike hC as as').bind fun _ _ _ _ => ?_
    exact (pattern.substitute_failsAlike hC as as').bind_pure _ _
  | .clause c => hC c
termination_by structural p => p

end

end

theorem Condition.substituted_failsAlike (p : Condition) (as as' : Aliases) :
    FailsAlike (p.substituted as) (p.substituted as') :=
  Predicate.substitute_failsAlike
    (fun _ => .after _ fun q => q.substitute_failsAlike noClauses_failsAlike as as') as as' p

/-- A condition with texts put in fails as the condition itself does. -/
theorem Condition.emit_of_substituted_failsAlike {p : Condition} {q : PlainCondition}
    {as : Aliases} (h : p.substituted as = .ok q) (d : Dialect) :
    FailsAlike (q.emit noClauses d) (p.emit (Clause.emit d) d) := by
  rw [Predicate.emit_of_substitute (Clause.substitute_putsIn as d) p h]
  exact .of_map _ _

/-! ## Statements -/

namespace Spec

theorem havingForm_failsAlike (p : Condition) (d d' : Dialect) (metrics metrics' : List Sql.Item) :
    FailsAlike (havingForm p d metrics) (havingForm p d' metrics') := by
  refine (p.substituted_failsAlike _ _).bind fun q q' hq hq' => ?_
  have hform := (p.emit_failsAlike d d').trans (p.emit_of_substituted_failsAlike hq' d').symm
  exact (p.emit_of_substituted_failsAlike hq d).trans hform

theorem keyItems_failsAlike (s : Spec) (d d' : Dialect) (source source' : KeySource)
    (keys : List String) : FailsAlike (s.keyItems d source keys) (s.keyItems d' source' keys) := by
  refine .mapM fun i _ => ?_
  have hkey : FailsAlike (i.1.keyForm d source i.2) (i.1.keyForm d' source' i.2) := by
    refine .after _ fun grain => ?_
    cases source <;> cases source' <;> cases grain <;> exact .ok _ _
  exact hkey.bind_pure _ _

theorem metricItems_failsAlike (s : Spec) (d d' : Dialect) :
    FailsAlike (s.metricItems d) (s.metricItems d') := by
  unfold metricItems
  split
  · exact .ok _ _
  · exact .mapM fun m _ => (m.aggregate.emit_failsAlike d d').bind_pure _ _

/-- Statements of one plan fail alike in all dialects, over all tables. -/
theorem query_failsAlike (s : Spec) (p : Plan) (d d' : Dialect) (table table' : String)
    (source source' : KeySource) :
    FailsAlike (s.query p d table source) (s.query p d' table' source') := by
  refine (s.keyItems_failsAlike d d' source source' _).bind fun _ _ _ _ => ?_
  refine (s.metricItems_failsAlike d d').bind fun metrics metrics' _ _ => ?_
  refine (FailsAlike.mapM_option s.filter fun c => c.emit_failsAlike d d').bind fun _ _ _ _ => ?_
  refine FailsAlike.bind_pure (.mapM_option s.having fun c => ?_) _ _
  exact havingForm_failsAlike c d d' metrics metrics'

end Spec

/-- **Whether something can be written does not depend on the dialect.**  Scalars, conditions,
aggregates and measures fail in two dialects with the same error, or in none, and so do all
statements of a report: what an embedded database can be sent can be sent to a warehouse whose table
is named, and the other way round. -/
theorem sql_failsAlike (d d' : Dialect) :
    (∀ e : Expr, FailsAlike (e.sql d) (e.sql d')) ∧
    (∀ p : Condition, FailsAlike (p.sql d) (p.sql d')) ∧
    (∀ p : PlainCondition, FailsAlike (p.sql d) (p.sql d')) ∧
    (∀ a : Aggregate, FailsAlike (a.sql d) (a.sql d')) ∧
    (∀ m : Measure, FailsAlike (m.sql d) (m.sql d')) ∧
    (∀ (s : Spec) p table table' source source',
      FailsAlike (s.query p d table source) (s.query p d' table' source')) ∧
    ∀ (s : Spec) (w : Warehouse) table, w.namedTable = .ok table →
      (∀ p, FailsAlike (s.embeddedStatement p) (s.warehouseStatement w p)) ∧
      FailsAlike s.embeddedSql (s.warehouseSql w) ∧
      ((∃ sql, s.embeddedSql = .ok sql) ↔ ∃ sql, s.warehouseSql w = .ok sql) := by
  refine ⟨fun e => (e.emit_failsAlike d d').bind_pure _ _,
    fun p => (p.emit_failsAlike d d').bind_pure _ _,
    fun p => (p.emit_failsAlike noClauses_failsAlike d d').bind_pure _ _,
    fun a => (a.emit_failsAlike d d').bind_pure _ _,
    fun m => (m.aggregate.emit_failsAlike d d').bind_pure _ _,
    fun s p table table' source source' => s.query_failsAlike p d d' table table' source source',
    fun s w table hw => ?_⟩
  have hstatement : ∀ p, FailsAlike (s.embeddedStatement p) (s.warehouseStatement w p) := by
    intro p
    rw [Spec.embeddedStatement, Spec.warehouseStatement, hw, ok_bind]
    exact (s.query_failsAlike p .duckdb .bigquery _ _ _ _).bind_pure _ _
  have hsql : FailsAlike s.embeddedSql (s.warehouseSql w) := .after _ hstatement
  exact ⟨hstatement, hsql, hsql.exists_ok⟩

/-- The rows whose name does not match a pattern that has no end. -/
def unmatched : Spec :=
  { rows := [{ name := "name" }]
    filter := some (.regex (.column "name") (.literal (.text "(a")) "i" true) }

/-- Where the regular expression is refused, no engine gets a statement. -/
theorem sql_failsAlike_unmatched :
    unmatched.embeddedSql = .error (.invalid (.invalidRegex "(a")) ∧
      unmatched.warehouseSql { project := "p", dataset := "d", table := "t" } =
        .error (.invalid (.invalidRegex "(a")) := by
  have hembedded : unmatched.embeddedSql = .error (.invalid (.invalidRegex "(a")) := by
    rfl
  obtain ⟨-, -, -, -, -, -, hspec⟩ := sql_failsAlike .duckdb .bigquery
  have halike := hspec unmatched { project := "p", dataset := "d", table := "t" } "p.d.t" rfl
  exact ⟨hembedded, (halike.2.1 _).mp hembedded⟩

end Crosstab
