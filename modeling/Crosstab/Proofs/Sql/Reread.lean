import Crosstab.Proofs.Clause.Completeness
import Crosstab.Proofs.Expr.Columnar
import Crosstab.Proofs.Sql.Emitted

/-!
# Conditions that read back from SQL

A condition is `Portable` in a dialect if it is made of what clauses can say.  Such a condition is
written, what is written reads as a condition without clauses, and this one has the truth values
of the first wherever that one has any.

The two conditions need not be the same: a range comes back as two comparisons, a membership in
nothing as a comparison that is false, and a pattern that must not match as a negated match.
`Scalar.ReadsBack` and `Predicate.ReadsBack` say what is kept; each form keeps it if its parts do.
-/

namespace Crosstab

open Sql (Token Writes ClauseEmit)
open Clause (LexemeKind)

/-! ## Portable conditions -/

/-- The scalar is made of columns and literals by `+`, `-` and `*`. -/
def Scalar.Portable {κ : Type} : Scalar κ → Prop
  | .column _ => True
  | .literal value => value.Portable
  | .binary op l r => (op = .add ∨ op = .sub ∨ op = .mul) ∧ l.Portable ∧ r.Portable
  | _ => False
termination_by structural e => e

/-- The predicate is made of what clauses can say, and its own clauses satisfy `C`.  A match that
ignores case needs a dialect that has one. -/
def Predicate.Portable {κ : Type} (d : Dialect) (C : κ → Prop) : Predicate κ → Prop
  | .compare _ l r => l.Portable ∧ r.Portable
  | .member e values => e.Portable ∧ ∀ v ∈ values, v.Portable
  | .range e low high _ => e.Portable ∧ low.Portable ∧ high.Portable
  | .isNull e => e.Portable
  | .join _ l r => l.Portable d C ∧ r.Portable d C
  | .not p => p.Portable d C
  | .like e pattern ignoreCase _ =>
    e.Portable ∧ pattern.Portable ∧ (ignoreCase = true → Sql.hasIlike d = true)
  | .regex _ _ _ _ => False
  | .clause c => C c
termination_by structural p => p

/-- The clause stands for a portable predicate. -/
def Clause.Portable (d : Dialect) (c : Clause) : Prop :=
  ∃ p, c.parsed = .ok p ∧ p.Portable d noClauses

/-- The condition is made of what clauses can say. -/
def Condition.Portable (d : Dialect) (p : Condition) : Prop :=
  Predicate.Portable d (Clause.Portable d) p

/-! ## What is kept -/

/-- The form is written and reads as a factor that has the same cells wherever there are any. -/
def Scalar.ReadsBack (d : Dialect) (form : Outcome (List Token))
    (cells : Frame → Outcome (List Cell)) : Prop :=
  ∃ ts ks, ∃ e : Scalar Empty, form = .ok ts ∧ Writes d ts ks ∧ Clause.Grammar.Signed ks e ∧
    ∀ f : Frame, f.WellFormed → ∀ vs, cells f = .ok vs → e.eval noClauses f = .ok vs

/-- The form is written and reads as a condition in parentheses that has the same truth values
wherever there are any. -/
def Predicate.ReadsBack (d : Dialect) (form : Outcome (List Token))
    (truths : Frame → Outcome (List Truth)) : Prop :=
  ∃ ts ks, ∃ q : PlainCondition, form = .ok ts ∧ Writes d ts ks ∧ Clause.Grammar.Group ks q ∧
    ∀ f : Frame, f.WellFormed → ∀ bs, truths f = .ok bs → q.eval noClauses f = .ok bs

theorem Scalar.readsBack_iff {d : Dialect} {form : Outcome (List Token)}
    {cells : Frame → Outcome (List Cell)} : ReadsBack d form cells ↔
      ∃ e, ReadsAs d form e ∧
        ∀ f : Frame, f.WellFormed → ∀ vs, cells f = .ok vs → e.eval noClauses f = .ok vs := by
  constructor
  · rintro ⟨ts, ks, e, hform, hwrites, hread, heval⟩
    exact ⟨e, ⟨ts, ks, hform, hwrites, hread⟩, heval⟩
  · rintro ⟨e, ⟨ts, ks, hform, hwrites, hread⟩, heval⟩
    exact ⟨ts, ks, e, hform, hwrites, hread, heval⟩

theorem Predicate.readsBack_iff {d : Dialect} {form : Outcome (List Token)}
    {truths : Frame → Outcome (List Truth)} : ReadsBack d form truths ↔
      ∃ q, ReadsAs d form q ∧
        ∀ f : Frame, f.WellFormed → ∀ bs, truths f = .ok bs → q.eval noClauses f = .ok bs := by
  constructor
  · rintro ⟨ts, ks, q, hform, hwrites, hread, heval⟩
    exact ⟨q, ⟨ts, ks, hform, hwrites, hread⟩, heval⟩
  · rintro ⟨q, ⟨ts, ks, hform, hwrites, hread⟩, heval⟩
    exact ⟨ts, ks, q, hform, hwrites, hread, heval⟩

/-! ## Scalars -/

namespace Scalar

variable {κ : Type} {h : ClauseEval κ} {w : ClauseEmit κ} {d : Dialect} {l r : Scalar κ}

theorem readsBack_literal {value : Cell} (hvalue : value.Portable) :
    ReadsBack d ((literal (κ := κ) value).emit w d) fun f => (literal value).eval h f :=
  readsBack_iff.mpr ⟨.literal value, readsAs_literal hvalue, fun _ _ _ hvs => hvs⟩

theorem readsBack_binary {op : BinaryOp} (hop : op = .add ∨ op = .sub ∨ op = .mul)
    (hl : ReadsBack d (l.emit w d) fun f => l.eval h f)
    (hr : ReadsBack d (r.emit w d) fun f => r.eval h f) :
    ReadsBack d ((binary op l r).emit w d) fun f => (binary op l r).eval h f := by
  obtain ⟨el, hl, hevall⟩ := readsBack_iff.mp hl
  obtain ⟨er, hr, hevalr⟩ := readsBack_iff.mp hr
  refine readsBack_iff.mpr ⟨_, readsAs_binary hop hl hr, ?_⟩
  intro f hf vs hvs
  obtain ⟨as, has, hvs⟩ := bind_eq_ok_iff.mp hvs
  obtain ⟨bs, hbs, hvs⟩ := bind_eq_ok_iff.mp hvs
  exact bind_eq_ok_iff.mpr ⟨as, hevall f hf as has,
    bind_eq_ok_iff.mpr ⟨bs, hevalr f hf bs hbs, hvs⟩⟩

/-- A portable scalar reads back. -/
theorem readsBack (hd : d ≠ .bigquery) : ∀ e : Scalar κ, e.Portable →
    ReadsBack d (e.emit w d) fun f => e.eval h f
  | .column name, _ =>
    readsBack_iff.mpr ⟨.column name, readsAs_column name, fun _ _ _ hvs => hvs⟩
  | .literal _, hvalue => readsBack_literal hvalue
  | .binary _ l r, ⟨hop, hl, hr⟩ => readsBack_binary hop (readsBack hd l hl) (readsBack hd r hr)
termination_by structural e => e

end Scalar

/-! ## Predicates -/

/-- A cell lies in a range if it compares with both bounds. -/
theorem Cell.inRange_eq (c low high : Cell) (bounds : Bounds) : c.inRange low high bounds =
    Truth.join .and (c.satisfies bounds.above low) (c.satisfies bounds.below high) := by
  cases bounds <;> rfl

theorem zip_replicate {α β : Type} {n : Nat} {as : List α} (h : as.length = n) (b : β) :
    as.zip (List.replicate n b) = as.map fun a => (a, b) := by
  subst h
  induction as with
  | nil => rfl
  | cons a as ih => rw [List.length_cons, List.replicate_succ, List.zip_cons_cons, ih]; rfl

theorem Cell.matchesPattern_negated (compile : String → Outcome Regex) (c pattern : Cell) :
    c.matchesPattern compile pattern true
      = (c.matchesPattern compile pattern false).map Truth.not := by
  rw [Cell.matchesPattern, Cell.matchesPattern]
  by_cases hnull : (c.isNull || pattern.isNull) = true
  · rw [if_pos hnull, if_pos hnull]
    rfl
  · rw [if_neg hnull, if_neg hnull]
    cases compile pattern.display with
    | error fault => rfl
    | ok r =>
      cases hm : r.matchesIn c.display <;>
        simp [hm, pure, Except.pure, Except.map, Truth.not]

theorem Cell.matchPatterns_negated (compile : String → Outcome Regex) (rows : List (Cell × Cell)) :
    Cell.matchPatterns compile true none rows
      = (do return (← Cell.matchPatterns compile false none rows).map Truth.not) := by
  rw [Cell.matchPatterns_eq_mapM _ (by simp), Cell.matchPatterns_eq_mapM _ (by simp)]
  induction rows with
  | nil => rfl
  | cons row rows ih =>
    rw [List.mapM_cons, List.mapM_cons, Cell.matchesPattern_negated, ih]
    cases row.1.matchesPattern compile row.2 false with
    | error fault => rfl
    | ok t =>
      cases rows.mapM fun row => row.1.matchesPattern compile row.2 false with
      | error fault => rfl
      | ok ts => rfl

namespace Predicate

variable {κ : Type} {h : ClauseEval κ} {w : ClauseEmit κ} {d : Dialect} {e l r : Scalar κ}
  {p q : Predicate κ}

/-! ### Comparisons and tests -/

/-- A comparison between scalars that read back. -/
theorem readsBack_compare {op : Comparison}
    (hl : Scalar.ReadsBack d (l.emit w d) fun f => l.eval h f)
    (hr : Scalar.ReadsBack d (r.emit w d) fun f => r.eval h f) :
    ReadsBack d ((compare op l r).emit w d) fun f => (compare op l r).eval h f := by
  obtain ⟨el, hl, hevall⟩ := Scalar.readsBack_iff.mp hl
  obtain ⟨er, hr, hevalr⟩ := Scalar.readsBack_iff.mp hr
  refine readsBack_iff.mpr ⟨_, readsAs_compare hl hr, ?_⟩
  intro f hf bs hbs
  obtain ⟨as, has, hbs⟩ := bind_eq_ok_iff.mp hbs
  obtain ⟨cs, hcs, hbs⟩ := bind_eq_ok_iff.mp hbs
  exact bind_eq_ok_iff.mpr ⟨as, hevall f hf as has,
    bind_eq_ok_iff.mpr ⟨cs, hevalr f hf cs hcs, hbs⟩⟩

theorem readsBack_isNull (he : Scalar.ReadsBack d (e.emit w d) fun f => e.eval h f) :
    ReadsBack d ((isNull e).emit w d) fun f => (isNull e).eval h f := by
  obtain ⟨e', he, heval⟩ := Scalar.readsBack_iff.mp he
  refine readsBack_iff.mpr ⟨_, readsAs_isNull he, ?_⟩
  intro f hf bs hbs
  obtain ⟨cs, hcs, hbs⟩ := bind_eq_ok_iff.mp hbs
  exact bind_eq_ok_iff.mpr ⟨cs, heval f hf cs hcs, hbs⟩

/-- A membership in one literal or more. -/
theorem readsBack_member_cons {v : Cell} {values : List Cell}
    (he : Scalar.ReadsBack d (e.emit w d) fun f => e.eval h f)
    (hvalues : ∀ c ∈ v :: values, c.Portable) :
    ReadsBack d ((member e (v :: values)).emit w d) fun f => (member e (v :: values)).eval h f := by
  obtain ⟨e', he, heval⟩ := Scalar.readsBack_iff.mp he
  refine readsBack_iff.mpr ⟨_, readsAs_member_cons he hvalues, ?_⟩
  intro f hf bs hbs
  obtain ⟨cs, hcs, hbs⟩ := bind_eq_ok_iff.mp hbs
  exact bind_eq_ok_iff.mpr ⟨cs, heval f hf cs hcs, hbs⟩

/-- Nothing is a member of nothing: what is written is a comparison that is false. -/
theorem readsBack_member_nil (he : Scalar.ReadsBack d (e.emit w d) fun f => e.eval h f) :
    ReadsBack d ((member e []).emit w d) fun f => (member e []).eval h f := by
  obtain ⟨e', -, heval⟩ := Scalar.readsBack_iff.mp he
  refine readsBack_iff.mpr ⟨_, readsAs_member_nil e, ?_⟩
  intro f hf bs hbs
  obtain ⟨cs, hcs, hbs⟩ := bind_eq_ok_iff.mp hbs
  have hlen : cs.length = f.len :=
    (Scalar.eval_follows noClauses_follows hf e' (heval f hf cs hcs)).length_eq
  refine bind_eq_ok_iff.mpr ⟨_, rfl, bind_eq_ok_iff.mpr ⟨_, rfl, ?_⟩⟩
  rw [← hbs, ← hlen, List.zip_replicate', List.map_replicate]
  exact congrArg Except.ok List.map_const'.symm

theorem eval_compare_literal {f : Frame} (hf : f.WellFormed) {e : Scalar Empty} {cs : List Cell}
    (hcs : e.eval noClauses f = .ok cs) (op : Comparison) (value : Cell) :
    (compare op e (.literal value)).eval noClauses f
      = .ok (cs.map fun c => c.satisfies op value) := by
  have hlen : cs.length = f.len := (Scalar.eval_follows noClauses_follows hf e hcs).length_eq
  refine bind_eq_ok_iff.mpr ⟨cs, hcs, bind_eq_ok_iff.mpr ⟨_, rfl, ?_⟩⟩
  rw [zip_replicate hlen, List.map_map]
  rfl

/-- A range, which is written as two comparisons. -/
theorem readsBack_range {low high : Cell} {bounds : Bounds} (hlow : low.Portable)
    (hhigh : high.Portable) (he : Scalar.ReadsBack d (e.emit w d) fun f => e.eval h f) :
    ReadsBack d ((range e low high bounds).emit w d) fun f =>
      (range e low high bounds).eval h f := by
  obtain ⟨e', he, heval⟩ := Scalar.readsBack_iff.mp he
  refine readsBack_iff.mpr ⟨_, readsAs_range hlow hhigh he, ?_⟩
  intro f hf bs hbs
  obtain ⟨cs, hcs, hbs⟩ := bind_eq_ok_iff.mp hbs
  have hcs' : e'.eval noClauses f = .ok cs := heval f hf cs hcs
  refine bind_eq_ok_iff.mpr ⟨_, eval_compare_literal hf hcs' bounds.above low,
    bind_eq_ok_iff.mpr ⟨_, eval_compare_literal hf hcs' bounds.below high, ?_⟩⟩
  rw [List.zip_map', List.map_map, ← hbs]
  exact congrArg Except.ok
    (List.map_congr_left fun c _ => (Cell.inRange_eq c low high bounds).symm)

/-! ### Connectives -/

theorem readsBack_join {op : Connective} (hp : ReadsBack d (p.emit w d) fun f => p.eval h f)
    (hq : ReadsBack d (q.emit w d) fun f => q.eval h f) :
    ReadsBack d ((join op p q).emit w d) fun f => (join op p q).eval h f := by
  obtain ⟨p', hp, hevalp⟩ := readsBack_iff.mp hp
  obtain ⟨q', hq, hevalq⟩ := readsBack_iff.mp hq
  refine readsBack_iff.mpr ⟨_, readsAs_join hp hq, ?_⟩
  intro f hf bs hbs
  obtain ⟨as, has, hbs⟩ := bind_eq_ok_iff.mp hbs
  obtain ⟨cs, hcs, hbs⟩ := bind_eq_ok_iff.mp hbs
  exact bind_eq_ok_iff.mpr ⟨as, hevalp f hf as has,
    bind_eq_ok_iff.mpr ⟨cs, hevalq f hf cs hcs, hbs⟩⟩

theorem readsBack_not (hp : ReadsBack d (p.emit w d) fun f => p.eval h f) :
    ReadsBack d ((Predicate.not p).emit w d) fun f => (Predicate.not p).eval h f := by
  obtain ⟨p', hp, heval⟩ := readsBack_iff.mp hp
  refine readsBack_iff.mpr ⟨_, readsAs_not hp, ?_⟩
  intro f hf bs hbs
  obtain ⟨cs, hcs, hbs⟩ := bind_eq_ok_iff.mp hbs
  exact bind_eq_ok_iff.mpr ⟨cs, heval f hf cs hcs, hbs⟩

/-! ### Patterns -/

theorem readsBack_like_positive {pattern : Scalar κ} {ignoreCase : Bool}
    (hcase : ignoreCase = true → Sql.hasIlike d = true)
    (he : Scalar.ReadsBack d (e.emit w d) fun f => e.eval h f)
    (hpattern : Scalar.ReadsBack d (pattern.emit w d) fun f => pattern.eval h f) :
    ReadsBack d ((like e pattern ignoreCase false).emit w d) fun f =>
      (like e pattern ignoreCase false).eval h f := by
  obtain ⟨e', he, hevale⟩ := Scalar.readsBack_iff.mp he
  obtain ⟨pattern', hpattern, hevalp⟩ := Scalar.readsBack_iff.mp hpattern
  refine readsBack_iff.mpr ⟨_, readsAs_like hcase he hpattern, ?_⟩
  intro f hf bs hbs
  obtain ⟨cs, hcs, hbs⟩ := bind_eq_ok_iff.mp hbs
  obtain ⟨ps, hps, hbs⟩ := bind_eq_ok_iff.mp hbs
  exact bind_eq_ok_iff.mpr ⟨cs, hevale f hf cs hcs,
    bind_eq_ok_iff.mpr ⟨ps, hevalp f hf ps hps, hbs⟩⟩

theorem eval_like_negated {pattern : Scalar κ} {ignoreCase : Bool} {f : Frame} :
    (like e pattern ignoreCase true).eval h f
      = (Predicate.not (like e pattern ignoreCase false)).eval h f := by
  change (e.eval h f >>= fun cs => pattern.eval h f >>= fun ps =>
      Cell.matchPatterns (fun s => Pattern.compileLike s ignoreCase) true none (cs.zip ps))
    = ((e.eval h f >>= fun cs => pattern.eval h f >>= fun ps =>
      Cell.matchPatterns (fun s => Pattern.compileLike s ignoreCase) false none (cs.zip ps))
        >>= fun ts => pure (ts.map Truth.not))
  simp only [bind_assoc, Cell.matchPatterns_negated]

/-- A match with a pattern; one that is negated is written as the negation of the other one. -/
theorem readsBack_like {pattern : Scalar κ} {ignoreCase negated : Bool}
    (hcase : ignoreCase = true → Sql.hasIlike d = true)
    (he : Scalar.ReadsBack d (e.emit w d) fun f => e.eval h f)
    (hpattern : Scalar.ReadsBack d (pattern.emit w d) fun f => pattern.eval h f) :
    ReadsBack d ((like e pattern ignoreCase negated).emit w d) fun f =>
      (like e pattern ignoreCase negated).eval h f := by
  have hpositive := readsBack_like_positive (h := h) (w := w) hcase he hpattern
  cases negated with
  | false => exact hpositive
  | true =>
    simp only [emit_like_negated, eval_like_negated]
    exact readsBack_not hpositive

/-! ### All forms -/

/-- **A portable predicate reads back** if its clauses do. -/
theorem readsBack {C : κ → Prop} (hd : d ≠ .bigquery)
    (hclause : ∀ c, C c → ReadsBack d (w c) fun f => h c f) : ∀ p : Predicate κ, p.Portable d C →
    ReadsBack d (p.emit w d) fun f => p.eval h f
  | .compare _ l r, ⟨hl, hr⟩ => readsBack_compare (l.readsBack hd hl) (r.readsBack hd hr)
  | .member e [], ⟨he, _⟩ => readsBack_member_nil (e.readsBack hd he)
  | .member e (_ :: _), ⟨he, hvalues⟩ => readsBack_member_cons (e.readsBack hd he) hvalues
  | .range e _ _ _, ⟨he, hlow, hhigh⟩ => readsBack_range hlow hhigh (e.readsBack hd he)
  | .isNull e, he => readsBack_isNull (e.readsBack hd he)
  | .join _ l r, ⟨hl, hr⟩ => readsBack_join (readsBack hd hclause l hl) (readsBack hd hclause r hr)
  | .not p, hp => readsBack_not (readsBack hd hclause p hp)
  | .like e pattern _ _, ⟨he, hpattern, hcase⟩ =>
    readsBack_like hcase (e.readsBack hd he) (pattern.readsBack hd hpattern)
  | .clause c, hc => hclause c hc
termination_by structural p => p

end Predicate

/-! ## Conditions -/

theorem Clause.emit_of_parsed {d : Dialect} {c : Clause} {p : PlainCondition}
    (h : c.parsed = .ok p) : Clause.emit d c = p.emit noClauses d := by
  rw [Clause.emit, h, ok_bind]

theorem Clause.eval_of_parsed {c : Clause} {p : PlainCondition} (h : c.parsed = .ok p) (f : Frame) :
    Clause.eval c f = p.eval noClauses f := by
  rw [Clause.eval, h, ok_bind]

/-- A portable clause reads back: what is written is what it stands for. -/
theorem Clause.readsBack {d : Dialect} (hd : d ≠ .bigquery) {c : Clause} (hc : c.Portable d) :
    Predicate.ReadsBack d (Clause.emit d c) fun f => Clause.eval c f := by
  obtain ⟨p, hparsed, hp⟩ := hc
  have hplain : Predicate.ReadsBack d (p.emit noClauses d) fun f => p.eval noClauses f :=
    Predicate.readsBack hd (fun c => nomatch c) p hp
  simp only [Clause.emit_of_parsed hparsed, Clause.eval_of_parsed hparsed]
  exact hplain

namespace Condition

theorem writes_of_portable {d : Dialect} (hd : d ≠ .bigquery) {p : Condition} (hp : p.Portable d) :
    Predicate.ReadsBack d (p.emit (Clause.emit d) d) fun f => p.evaluate f :=
  Predicate.readsBack hd (fun _ hc => Clause.readsBack hd hc) p hp

/-- **What is written for a condition reads back.**  A portable condition is written, the text reads
as a condition without clauses, and on every table on which the first has truth values the second
has the same ones. -/
theorem predicateOf_sql {d : Dialect} (hd : d = .ansi ∨ d = .duckdb) {p : Condition}
    (hp : p.Portable d) :
    ∃ text q, p.sql d = .ok text ∧ Clause.predicateOf text = .ok q ∧
      ∀ f : Frame, f.WellFormed → ∀ ts, p.evaluate f = .ok ts → q.eval noClauses f = .ok ts := by
  have hd' : d ≠ .bigquery := by
    rcases hd with rfl | rfl <;> decide
  obtain ⟨form, ks, q, hemit, hwrites, hread, heval⟩ := writes_of_portable hd' hp
  have hsql : p.sql d = .ok (Sql.render d form) := by
    rw [Condition.sql, hemit, ok_bind]
    rfl
  obtain ⟨ls, hls, hkinds⟩ := Clause.lexemes_of_splits hwrites.splits
  have hderives : Clause.Grammar.Disjunction (Clause.kinds ls) q := by
    rw [hkinds]
    exact .conjunction (.negation (.group hread))
  exact ⟨_, q, hsql, Clause.predicateOf_of_derives hls hderives, heval⟩

theorem parsed_isNull :
    (⟨"WHERE name IS NULL", .ansi⟩ : Clause).parsed = .ok (.isNull (.column "name")) := by
  have hbody : String.ofList (Clause.body "WHERE name IS NULL") = " name IS NULL" := by
    decide +kernel
  have hread : Clause.predicateOf " name IS NULL" = .ok (.isNull (.column "name")) := by
    refine Clause.predicateOf_of_derives (s := " name IS NULL") rfl ?_
    exact .conjunction (.negation (.group (.comparison
      (.isNull (.product (.signed (.atom (.name "name"))))))))
  rw [Clause.parsed, Clause.predicate, hbody, hread]
  rfl

/-- A clause, or a quoted and dotted name that must not match a pattern. -/
theorem predicateOf_sql_unlike :
    ∃ q, Clause.predicateOf
        "((\"name\" IS NULL) OR (NOT (\"site\".\"\"\"url\" ILIKE 'O''%')))" = .ok q ∧
      ∀ f : Frame, f.WellFormed → ∀ ts, Condition.evaluate (.join .or
          (.clause ⟨"WHERE name IS NULL", .ansi⟩)
          (.like (.column "site.\"url") (.literal (.text "O'%")) true true)) f = .ok ts →
        q.eval noClauses f = .ok ts := by
  obtain ⟨text, q, htext, hread, heval⟩ := predicateOf_sql (d := .duckdb) (.inr rfl)
    (p := .join .or (.clause ⟨"WHERE name IS NULL", .ansi⟩)
      (.like (.column "site.\"url") (.literal (.text "O'%")) true true))
    ⟨⟨_, parsed_isNull, trivial⟩, trivial, trivial, fun _ => rfl⟩
  have hclause : Predicate.emit (Clause.emit .duckdb) .duckdb
        (.clause ⟨"WHERE name IS NULL", .ansi⟩)
      = Predicate.emit noClauses .duckdb (.isNull (.column "name")) :=
    Clause.emit_of_parsed parsed_isNull
  rw [Condition.sql, Predicate.emit, hclause] at htext
  cases htext
  exact ⟨q, hread, heval⟩

end Condition

end Crosstab
