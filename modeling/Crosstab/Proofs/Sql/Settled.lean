import Crosstab.Proofs.Clause.Parsed
import Crosstab.Proofs.Expr.Structured
import Crosstab.Proofs.Sql.Reread

/-!
# What writing and reading a condition settles on

Writing a condition and reading the text gives a condition again, `PlainCondition.reread`.  The
first round may change it: ranges become two comparisons, memberships in nothing a comparison that
is false, and negated patterns negations.  `Predicate.settled` is what it becomes, part by part, and
what is settled does not change any more (`Predicate.settled_settled`).

So a clause that divides nothing, holds no infinite float and, for a dialect without `ILIKE`, no
pattern that ignores case, is settled after one round (`PlainCondition.settles`).
-/

namespace Crosstab

open Sql (Token)

/-! ## What is settled -/

/-- What a condition reads as when it is written. -/
def Predicate.settled : PlainCondition → PlainCondition
  | .member _ [] => .compare .eq (.literal (.int 1)) (.literal (.int 0))
  | .range e low high bounds =>
    .join .and (.compare bounds.above e (.literal low)) (.compare bounds.below e (.literal high))
  | .join op p q => .join op p.settled q.settled
  | .not p => .not p.settled
  | .like e pattern ignoreCase true => .not (.like e pattern ignoreCase false)
  | p => p
termination_by structural p => p

/-- A condition without clauses, written and read again. -/
def PlainCondition.reread (d : Dialect) (p : PlainCondition) : Outcome PlainCondition := do
  (Clause.predicateOf (← p.sql d)).mapError .clause

namespace Predicate

/-- What is settled stays as it is. -/
theorem settled_settled : ∀ p : PlainCondition, p.settled.settled = p.settled
  | .compare _ _ _ => rfl
  | .member _ [] => rfl
  | .member _ (_ :: _) => rfl
  | .range _ _ _ _ => rfl
  | .isNull _ => rfl
  | .join _ p q => by simp only [settled, settled_settled p, settled_settled q]
  | .not p => by simp only [settled, settled_settled p]
  | .like _ _ _ true => rfl
  | .like _ _ _ false => rfl
  | .regex _ _ _ _ => rfl

/-- What can be written and read can still be when it is settled. -/
theorem portable_settled {d : Dialect} {C : Empty → Prop} : ∀ p : PlainCondition,
    p.Portable d C → p.settled.Portable d C
  | .compare _ _ _, hp => hp
  | .member _ [], _ => ⟨trivial, trivial⟩
  | .member _ (_ :: _), hp => hp
  | .range _ _ _ _, ⟨he, hlow, hhigh⟩ => ⟨⟨he, hlow⟩, he, hhigh⟩
  | .isNull _, hp => hp
  | .join _ p q, ⟨hp, hq⟩ => ⟨portable_settled p hp, portable_settled q hq⟩
  | .not p, hp => portable_settled p hp
  | .like _ _ _ true, hp => hp
  | .like _ _ _ false, hp => hp

end Predicate

/-! ## What is written reads as what is settled -/

/-- A portable scalar reads as it is. -/
theorem Scalar.readsAs {d : Dialect} : ∀ e : Scalar Empty, e.Portable →
    ReadsAs d (e.emit noClauses d) e
  | .column name, _ => readsAs_column name
  | .literal _, hvalue => readsAs_literal hvalue
  | .binary _ l r, ⟨hop, hl, hr⟩ => readsAs_binary hop (readsAs l hl) (readsAs r hr)

/-- A portable condition reads as what it settles on. -/
theorem Predicate.readsAs {d : Dialect} {C : Empty → Prop} : ∀ p : PlainCondition,
    p.Portable d C → ReadsAs d (p.emit noClauses d) p.settled
  | .compare _ l r, ⟨hl, hr⟩ => readsAs_compare (l.readsAs hl) (r.readsAs hr)
  | .member e [], _ => readsAs_member_nil e
  | .member e (_ :: _), ⟨he, hvalues⟩ => readsAs_member_cons (e.readsAs he) hvalues
  | .range e _ _ _, ⟨he, hlow, hhigh⟩ => readsAs_range hlow hhigh (e.readsAs he)
  | .isNull e, he => readsAs_isNull (e.readsAs he)
  | .join _ p q, ⟨hp, hq⟩ => readsAs_join (readsAs p hp) (readsAs q hq)
  | .not p, hp => readsAs_not (readsAs p hp)
  | .like e pattern _ false, ⟨he, hpattern, hcase⟩ =>
    readsAs_like hcase (e.readsAs he) (pattern.readsAs hpattern)
  | .like e pattern _ true, ⟨he, hpattern, hcase⟩ =>
    readsAs_like_negated hcase (e.readsAs he) (pattern.readsAs hpattern)

/-- A form that reads as a condition is the text of one. -/
theorem Predicate.ReadsAs.exists_text {d : Dialect} {form : Outcome (List Token)}
    {q : PlainCondition} (h : ReadsAs d form q) :
    ∃ ts, form = .ok ts ∧ Clause.predicateOf (Sql.render d ts) = .ok q := by
  obtain ⟨ts, ks, hform, hwrites, hread⟩ := h
  obtain ⟨ls, hls, rfl⟩ := Clause.lexemes_of_splits hwrites.splits
  exact ⟨ts, hform,
    Clause.predicateOf_of_derives hls (.conjunction (.negation (.group hread)))⟩

namespace PlainCondition

variable {d : Dialect} {p : PlainCondition}

/-- A portable condition is written, and the text reads as what it settles on. -/
theorem exists_sql {C : Empty → Prop} (hp : Predicate.Portable d C p) :
    ∃ text, p.sql d = .ok text ∧ Clause.predicateOf text = .ok (Predicate.settled p) := by
  obtain ⟨ts, hts, hread⟩ := (Predicate.readsAs p hp).exists_text
  refine ⟨_, ?_, hread⟩
  rw [sql, hts]
  rfl

theorem reread_eq_ok {text : String} {q : PlainCondition} (htext : p.sql d = .ok text)
    (hq : Clause.predicateOf text = .ok q) : p.reread d = .ok q := by
  rw [reread, htext, ok_bind, hq]
  rfl

end PlainCondition

/-! ## Which clauses can be written and read -/

/-- No part of the arithmetic of a scalar is a quotient. -/
def Scalar.Undivided {κ : Type} : Scalar κ → Prop
  | .binary op l r => op ≠ .div ∧ l.Undivided ∧ r.Undivided
  | .safeDiv _ _ _ => False
  | _ => True
termination_by structural e => e

/-- No scalar of a predicate divides. -/
def Predicate.Undivided {κ : Type} : Predicate κ → Prop
  | .compare _ l r => l.Undivided ∧ r.Undivided
  | .member e _ => e.Undivided
  | .range e _ _ _ => e.Undivided
  | .isNull e => e.Undivided
  | .join _ p q => p.Undivided ∧ q.Undivided
  | .not p => p.Undivided
  | .like e pattern _ _ => e.Undivided ∧ pattern.Undivided
  | .regex e pattern _ _ => e.Undivided ∧ pattern.Undivided
  | .clause _ => True
termination_by structural p => p

/-- Whether some pattern of a predicate ignores case. -/
def Predicate.ignoresCase {κ : Type} : Predicate κ → Bool
  | .join _ p q => p.ignoresCase || q.ignoresCase
  | .not p => p.ignoresCase
  | .like _ _ ignoreCase _ => ignoreCase
  | _ => false
termination_by structural p => p

section

variable {C : Cell → Prop} (hC : ∀ c, C c → c.Finite → c.Portable)

include hC

theorem Scalar.portable_of_over : ∀ e : Scalar Empty, e.ArithmeticOver C → e.Finite →
    e.Undivided → e.Portable
  | .column _, _, _, _ => trivial
  | .literal value, hvalue, hfinite, _ => hC value hvalue hfinite
  | .binary op l r, ⟨hconcat, hl, hr⟩, ⟨hfl, hfr⟩, ⟨hdiv, hul, hur⟩ => by
    refine ⟨?_, portable_of_over l hl hfl hul, portable_of_over r hr hfr hur⟩
    cases op with
    | add => exact .inl rfl
    | sub => exact .inr (.inl rfl)
    | mul => exact .inr (.inr rfl)
    | div => exact absurd rfl hdiv
    | concat => exact absurd rfl hconcat

theorem Predicate.portable_of_over {d : Dialect} {D : Empty → Prop} : ∀ p : PlainCondition,
    p.ElementaryOver C → p.Finite → p.Undivided →
    (Sql.hasIlike d = false → p.ignoresCase = false) → p.Portable d D
  | .compare _ l r, ⟨hl, hr⟩, ⟨hfl, hfr⟩, ⟨hul, hur⟩, _ =>
    ⟨l.portable_of_over hC hl hfl hul, r.portable_of_over hC hr hfr hur⟩
  | .member e _, ⟨he, hvalues⟩, ⟨hfe, hfinite⟩, hue, _ =>
    ⟨e.portable_of_over hC he hfe hue, fun c hc => hC c (hvalues c hc) (hfinite c hc)⟩
  | .range e low high _, ⟨he, hlow, hhigh⟩, ⟨hfe, hflow, hfhigh⟩, hue, _ =>
    ⟨e.portable_of_over hC he hfe hue, hC low hlow hflow, hC high hhigh hfhigh⟩
  | .isNull e, he, hfe, hue, _ => e.portable_of_over hC he hfe hue
  | .join _ p q, ⟨hp, hq⟩, ⟨hfp, hfq⟩, ⟨hup, huq⟩, hcase => by
    simp only [ignoresCase, Bool.or_eq_false_iff] at hcase
    exact ⟨portable_of_over p hp hfp hup fun h => (hcase h).1,
      portable_of_over q hq hfq huq fun h => (hcase h).2⟩
  | .not p, hp, hfp, hup, hcase => portable_of_over p hp hfp hup hcase
  | .like e pattern ignoreCase _, ⟨he, hpattern⟩, ⟨hfe, hfpattern⟩, ⟨hue, hupattern⟩, hcase => by
    refine ⟨e.portable_of_over hC he hfe hue,
      pattern.portable_of_over hC hpattern hfpattern hupattern, ?_⟩
    intro hignore
    by_contra hno
    have hfalse : ignoreCase = false := hcase (Bool.eq_false_of_not_eq_true hno)
    exact absurd hignore (by rw [hfalse]; exact Bool.false_ne_true)

end

/-- **What a clause stands for settles in one round.**  Writing it and reading the text gives the
settled condition.  Whenever this is written from then on, the text is the same, and it reads as the
same condition. -/
theorem PlainCondition.settles {d : Dialect} (hd : d = .ansi ∨ d = .duckdb) {s : String}
    {p : PlainCondition} (h : Clause.predicateOf s = .ok p) (hdivide : Predicate.Undivided p)
    (hcase : d = .ansi → Predicate.ignoresCase p = false) (hfinite : Predicate.Finite p) :
    ∃ first text, p.sql d = .ok first ∧ Clause.predicateOf first = .ok (Predicate.settled p) ∧
      PlainCondition.sql d (Predicate.settled p) = .ok text ∧
      Clause.predicateOf text = .ok (Predicate.settled p) ∧
      ∀ n, (fun q => q >>= reread d)^[n + 1] (.ok p) = .ok (Predicate.settled p) := by
  obtain ⟨ls, -, hover⟩ := Clause.elementaryOver_of_predicateOf h
  have hilike : Sql.hasIlike d = false → Predicate.ignoresCase p = false := by
    rcases hd with rfl | rfl
    · exact fun _ => hcase rfl
    · exact fun hno => absurd hno (by decide)
  have hp : Predicate.Portable d (fun _ => True) p :=
    Predicate.portable_of_over (fun _ hc hf => hc.portable hf) p hover hfinite hdivide hilike
  obtain ⟨first, hfirst, hread⟩ := exists_sql hp
  obtain ⟨text, htext, hreread⟩ := exists_sql (Predicate.portable_settled p hp)
  rw [Predicate.settled_settled] at hreread
  refine ⟨first, text, hfirst, hread, htext, hreread, ?_⟩
  intro n
  induction n with
  | zero => exact reread_eq_ok hfirst hread
  | succ n ih =>
    rw [Function.iterate_succ_apply', ih]
    exact reread_eq_ok htext hreread

theorem predicateOf_between : Clause.predicateOf "n BETWEEN -1 AND 5 OR c IN ()" =
    .ok (.join .or (.range (.column "n") (.int (-1)) (.int 5) .both)
      (.member (.column "c") [])) := by
  have hlexemes : Clause.lexemes "n BETWEEN -1 AND 5 OR c IN ()" = .ok
      [⟨.name "n", 0, 1, "n"⟩, ⟨.keyword .between, 2, 9, "BETWEEN"⟩, ⟨.sign .minus, 10, 11, "-"⟩,
        ⟨.number "1", 11, 12, "1"⟩, ⟨.keyword .and, 13, 16, "AND"⟩, ⟨.number "5", 17, 18, "5"⟩,
        ⟨.keyword .or, 19, 21, "OR"⟩, ⟨.name "c", 22, 23, "c"⟩, ⟨.keyword .in, 24, 26, "IN"⟩,
        ⟨.leftParen, 27, 28, "("⟩, ⟨.rightParen, 28, 29, ")"⟩] := rfl
  have hname : ∀ name, Clause.Grammar.Sum [.name name] (.column name) := fun name =>
    .product (.signed (.atom (.name name)))
  have hlow : Clause.Grammar.Sum [.sign .minus, .number "1"] (.literal (.int (-1))) :=
    .product (.signed (.negative "1"))
  have hhigh : Clause.Grammar.Sum [.number "5"] (.literal (.int 5)) :=
    .product (.signed (.atom (.literal (.number "5"))))
  exact Clause.predicateOf_of_derives hlexemes
    (.or (.conjunction (.negation (.group (.comparison (.test (hname "n") (.between hlow hhigh))))))
      (.negation (.group (.comparison (.test (hname "c") .amongNone)))))

/-- A range becomes two comparisons, and a membership in nothing a comparison that is false. -/
theorem PlainCondition.settles_between : ∃ first text,
    PlainCondition.sql .ansi (.join .or (.range (.column "n") (.int (-1)) (.int 5) .both)
      (.member (.column "c") [])) = .ok first ∧
    PlainCondition.sql .ansi (.join .or
      (.join .and (.compare .ge (.column "n") (.literal (.int (-1))))
        (.compare .le (.column "n") (.literal (.int 5))))
      (.compare .eq (.literal (.int 1)) (.literal (.int 0)))) = .ok text ∧
    Clause.predicateOf first = Clause.predicateOf text := by
  obtain ⟨first, text, hfirst, hread, htext, hreread, -⟩ := PlainCondition.settles (.inl rfl)
    predicateOf_between ⟨trivial, trivial⟩ (fun _ => rfl)
    ⟨⟨trivial, trivial, trivial⟩, trivial, List.forall_mem_nil _⟩
  exact ⟨first, text, hfirst, htext, hread.trans hreread.symm⟩

end Crosstab
