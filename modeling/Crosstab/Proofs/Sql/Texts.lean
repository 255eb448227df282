import Crosstab.Proofs.Clause.Parsed
import Crosstab.Report.Measure
import Mathlib.Data.List.Forall2

/-!
# Trees that differ in their texts

Two trees are `Alike` if they differ at most in the texts of string literals and in the names of
columns; a clause counts as the predicate that it stands for.  The `texts` of a tree are these texts
as lexemes, in the order in which they are written: the operand of a range is written twice, and
that of a membership in nothing is not written.
-/

namespace Crosstab

open Clause (LexemeKind)

/-! ## Trees that are alike -/

/-- The cells differ at most in their texts. -/
inductive Cell.Alike : Cell → Cell → Prop where
  | text (s t : String) : Alike (.text s) (.text t)
  | same (c : Cell) : Alike c c

mutual

/-- The scalars differ at most in the texts of string literals, in the names of columns, and in
clauses that are related. -/
inductive Scalar.Alike {κ : Type} (R : κ → κ → Prop) : Scalar κ → Scalar κ → Prop where
  | column (m n : String) : Scalar.Alike R (.column m) (.column n)
  | literal {a b : Cell} : a.Alike b → Scalar.Alike R (.literal a) (.literal b)
  | binary (op : BinaryOp) {l l' r r' : Scalar κ} :
    Scalar.Alike R l l' → Scalar.Alike R r r' →
      Scalar.Alike R (.binary op l r) (.binary op l' r')
  | safeDiv (fill : Binary64) {n n' m m' : Scalar κ} :
    Scalar.Alike R n n' → Scalar.Alike R m m' →
      Scalar.Alike R (.safeDiv n m fill) (.safeDiv n' m' fill)
  | coalesce {args args' : List (Scalar κ)} :
    Scalar.AlikeList R args args' → Scalar.Alike R (.coalesce args) (.coalesce args')
  | caseWhen {bs bs' : List (Predicate κ × Scalar κ)} :
    Scalar.AlikeBranches R bs bs' → Scalar.Alike R (.caseWhen bs none) (.caseWhen bs' none)
  | caseElse {bs bs' : List (Predicate κ × Scalar κ)} {e e' : Scalar κ} :
    Scalar.AlikeBranches R bs bs' → Scalar.Alike R e e' →
      Scalar.Alike R (.caseWhen bs (some e)) (.caseWhen bs' (some e'))
  | fragment (text : String) : Scalar.Alike R (.fragment text) (.fragment text)

/-- The scalars of two lists are alike, one by one. -/
inductive Scalar.AlikeList {κ : Type} (R : κ → κ → Prop) :
    List (Scalar κ) → List (Scalar κ) → Prop where
  | nil : Scalar.AlikeList R [] []
  | cons {e e' : Scalar κ} {es es' : List (Scalar κ)} :
    Scalar.Alike R e e' → Scalar.AlikeList R es es' → Scalar.AlikeList R (e :: es) (e' :: es')

/-- The branches of two case distinctions are alike, one by one. -/
inductive Scalar.AlikeBranches {κ : Type} (R : κ → κ → Prop) :
    List (Predicate κ × Scalar κ) → List (Predicate κ × Scalar κ) → Prop where
  | nil : Scalar.AlikeBranches R [] []
  | cons {p p' : Predicate κ} {e e' : Scalar κ} {bs bs' : List (Predicate κ × Scalar κ)} :
    Predicate.Alike R p p' → Scalar.Alike R e e' → Scalar.AlikeBranches R bs bs' →
      Scalar.AlikeBranches R ((p, e) :: bs) ((p', e') :: bs')

/-- The predicates differ at most in the texts of string literals, in the names of columns, and in
clauses that are related. -/
inductive Predicate.Alike {κ : Type} (R : κ → κ → Prop) : Predicate κ → Predicate κ → Prop where
  | compare (op : Comparison) {l l' r r' : Scalar κ} :
    Scalar.Alike R l l' → Scalar.Alike R r r' →
      Predicate.Alike R (.compare op l r) (.compare op l' r')
  | member {e e' : Scalar κ} {values values' : List Cell} :
    Scalar.Alike R e e' → List.Forall₂ Cell.Alike values values' →
      Predicate.Alike R (.member e values) (.member e' values')
  | range (bounds : Bounds) {e e' : Scalar κ} {low low' high high' : Cell} :
    Scalar.Alike R e e' → low.Alike low' → high.Alike high' →
      Predicate.Alike R (.range e low high bounds) (.range e' low' high' bounds)
  | isNull {e e' : Scalar κ} : Scalar.Alike R e e' → Predicate.Alike R (.isNull e) (.isNull e')
  | join (op : Connective) {p p' q q' : Predicate κ} :
    Predicate.Alike R p p' → Predicate.Alike R q q' →
      Predicate.Alike R (.join op p q) (.join op p' q')
  | not {p p' : Predicate κ} : Predicate.Alike R p p' → Predicate.Alike R (.not p) (.not p')
  | like (ignoreCase negated : Bool) {e e' pattern pattern' : Scalar κ} :
    Scalar.Alike R e e' → Scalar.Alike R pattern pattern' →
      Predicate.Alike R (.like e pattern ignoreCase negated) (.like e' pattern' ignoreCase negated)
  | regex (flags : String) (negated : Bool) {e e' pattern pattern' : Scalar κ} :
    Scalar.Alike R e e' → Scalar.Alike R pattern pattern' →
      Predicate.Alike R (.regex e pattern flags negated) (.regex e' pattern' flags negated)
  | clause {c c' : κ} : R c c' → Predicate.Alike R (.clause c) (.clause c')

end

/-- If the clauses stand for predicates, these are alike. -/
def Clause.Alike (c c' : Clause) : Prop :=
  ∀ p p' : PlainCondition, c.parsed = .ok p → c'.parsed = .ok p' → p.Alike (· = ·) p'

/-- The aggregates differ at most in the texts of string literals and in the names of columns. -/
inductive Aggregate.Alike : Aggregate → Aggregate → Prop where
  | reduce (r : Reduction) {e e' : Expr} :
    Scalar.Alike Clause.Alike e e' → Alike (.reduce r e) (.reduce r e')
  | countRows : Alike .countRows .countRows
  | ratio (fill : Binary64) {n n' m m' : Expr} :
    Scalar.Alike Clause.Alike n n' → Scalar.Alike Clause.Alike m m' →
      Alike (.ratio n m fill) (.ratio n' m' fill)

/-- The measures have one name and differ at most in the texts of string literals and in the names
of columns. -/
inductive Measure.Alike : Measure → Measure → Prop where
  | row (name : String) (r : Reduction) {e e' : Expr} :
    Scalar.Alike Clause.Alike e e' → Alike (.row name r e) (.row name r e')
  | group (name : String) {a a' : Aggregate} :
    a.Alike a' → Alike (.group name a) (.group name a')

theorem Measure.Alike.aggregate {m m' : Measure} (h : m.Alike m') :
    m.aggregate.Alike m'.aggregate := by
  cases h with
  | row name r h => exact .reduce r h
  | group name h => exact h

/-! ### Every tree is like itself -/

section

variable {κ : Type} {R : κ → κ → Prop}

mutual

theorem Scalar.Alike.refl (hR : ∀ c, R c c) : ∀ e : Scalar κ, e.Alike R e
  | .column name => .column name name
  | .literal c => .literal (.same c)
  | .binary op l r => .binary op (Scalar.Alike.refl hR l) (Scalar.Alike.refl hR r)
  | .safeDiv n m fill => .safeDiv fill (Scalar.Alike.refl hR n) (Scalar.Alike.refl hR m)
  | .coalesce args => .coalesce (Scalar.AlikeList.refl hR args)
  | .caseWhen branches none => .caseWhen (Scalar.AlikeBranches.refl hR branches)
  | .caseWhen branches (some e) =>
    .caseElse (Scalar.AlikeBranches.refl hR branches) (Scalar.Alike.refl hR e)
  | .fragment text => .fragment text
termination_by structural e => e

theorem Scalar.AlikeList.refl (hR : ∀ c, R c c) : ∀ es : List (Scalar κ), Scalar.AlikeList R es es
  | [] => .nil
  | e :: rest => .cons (Scalar.Alike.refl hR e) (Scalar.AlikeList.refl hR rest)
termination_by structural es => es

theorem Scalar.AlikeBranches.refl (hR : ∀ c, R c c) :
    ∀ bs : List (Predicate κ × Scalar κ), Scalar.AlikeBranches R bs bs
  | [] => .nil
  | (p, e) :: rest =>
    .cons (Predicate.Alike.refl hR p) (Scalar.Alike.refl hR e) (Scalar.AlikeBranches.refl hR rest)
termination_by structural bs => bs

theorem Predicate.Alike.refl (hR : ∀ c, R c c) : ∀ p : Predicate κ, p.Alike R p
  | .compare op l r => .compare op (Scalar.Alike.refl hR l) (Scalar.Alike.refl hR r)
  | .member e _ => .member (Scalar.Alike.refl hR e) (List.forall₂_same.mpr fun c _ => .same c)
  | .range e low high bounds => .range bounds (Scalar.Alike.refl hR e) (.same low) (.same high)
  | .isNull e => .isNull (Scalar.Alike.refl hR e)
  | .join op p q => .join op (Predicate.Alike.refl hR p) (Predicate.Alike.refl hR q)
  | .not p => .not (Predicate.Alike.refl hR p)
  | .like e pattern ignoreCase negated =>
    .like ignoreCase negated (Scalar.Alike.refl hR e) (Scalar.Alike.refl hR pattern)
  | .regex e pattern flags negated =>
    .regex flags negated (Scalar.Alike.refl hR e) (Scalar.Alike.refl hR pattern)
  | .clause c => .clause (hR c)
termination_by structural p => p

end

end

/-- A clause is like itself. -/
theorem Clause.Alike.refl (c : Clause) : c.Alike c := by
  intro p p' hp hp'
  rw [hp] at hp'
  cases hp'
  exact Predicate.Alike.refl (fun _ => rfl) p

/-! ## Texts -/

/-- The text of a cell, if it is one. -/
def Cell.texts : Cell → List LexemeKind
  | .text s => [.string s]
  | _ => []

mutual

/-- The texts of a scalar. -/
def Scalar.texts {κ : Type} (f : κ → List LexemeKind) : Scalar κ → List LexemeKind
  | .column name => [.name name]
  | .literal c => c.texts
  | .binary _ l r => l.texts f ++ r.texts f
  | .safeDiv n m _ => n.texts f ++ m.texts f
  | .coalesce args => Scalar.textsOfList f args
  | .caseWhen branches none => Scalar.textsOfBranches f branches
  | .caseWhen branches (some e) => Scalar.textsOfBranches f branches ++ e.texts f
  | .fragment _ => []
termination_by structural e => e

/-- The texts of some scalars. -/
def Scalar.textsOfList {κ : Type} (f : κ → List LexemeKind) : List (Scalar κ) → List LexemeKind
  | [] => []
  | e :: rest => e.texts f ++ Scalar.textsOfList f rest
termination_by structural es => es

/-- The texts of some branches. -/
def Scalar.textsOfBranches {κ : Type} (f : κ → List LexemeKind) :
    List (Predicate κ × Scalar κ) → List LexemeKind
  | [] => []
  | (p, e) :: rest => p.texts f ++ (e.texts f ++ Scalar.textsOfBranches f rest)
termination_by structural bs => bs

/-- The texts of a predicate. -/
def Predicate.texts {κ : Type} (f : κ → List LexemeKind) : Predicate κ → List LexemeKind
  | .compare _ l r => l.texts f ++ r.texts f
  | .member _ [] => []
  | .member e (v :: values) => e.texts f ++ (v :: values).flatMap Cell.texts
  | .range e low high _ => e.texts f ++ (low.texts ++ (e.texts f ++ high.texts))
  | .isNull e => e.texts f
  | .join _ p q => p.texts f ++ q.texts f
  | .not p => p.texts f
  | .like e pattern _ _ => e.texts f ++ pattern.texts f
  | .regex e pattern _ _ => e.texts f ++ pattern.texts f
  | .clause c => f c
termination_by structural p => p

end

/-- The texts of the predicate that a clause stands for. -/
def Clause.texts (c : Clause) : List LexemeKind :=
  match c.parsed with
  | .ok p => p.texts noClauses
  | .error _ => []

theorem Clause.texts_of_parsed {c : Clause} {p : PlainCondition} (h : c.parsed = .ok p) :
    c.texts = p.texts noClauses := by
  unfold Clause.texts
  rw [h]

/-- The texts of an aggregate. -/
def Aggregate.texts : Aggregate → List LexemeKind
  | reduce _ e => e.texts Clause.texts
  | countRows => []
  | ratio n m _ => n.texts Clause.texts ++ m.texts Clause.texts

/-! ## Trees that are written in tokens -/

mutual

/-- The scalar holds no fragment, and texts are put together only in a dialect that has a function
for it. -/
def Scalar.Tokenized {κ : Type} (d : Dialect) : Scalar κ → Prop
  | .column _ => True
  | .literal _ => True
  | .binary op l r => (op = .concat → d = .bigquery) ∧ l.Tokenized d ∧ r.Tokenized d
  | .safeDiv n m _ => n.Tokenized d ∧ m.Tokenized d
  | .coalesce args => Scalar.TokenizedList d args
  | .caseWhen branches none => Scalar.TokenizedBranches d branches
  | .caseWhen branches (some e) => Scalar.TokenizedBranches d branches ∧ e.Tokenized d
  | .fragment _ => False
termination_by structural e => e

/-- The scalars hold no fragments. -/
def Scalar.TokenizedList {κ : Type} (d : Dialect) : List (Scalar κ) → Prop
  | [] => True
  | e :: rest => e.Tokenized d ∧ Scalar.TokenizedList d rest
termination_by structural es => es

/-- The branches hold no fragments. -/
def Scalar.TokenizedBranches {κ : Type} (d : Dialect) : List (Predicate κ × Scalar κ) → Prop
  | [] => True
  | (p, e) :: rest => p.Tokenized d ∧ e.Tokenized d ∧ Scalar.TokenizedBranches d rest
termination_by structural bs => bs

/-- The operands of the predicate hold no fragments. -/
def Predicate.Tokenized {κ : Type} (d : Dialect) : Predicate κ → Prop
  | .compare _ l r => l.Tokenized d ∧ r.Tokenized d
  | .member e _ => e.Tokenized d
  | .range e _ _ _ => e.Tokenized d
  | .isNull e => e.Tokenized d
  | .join _ p q => p.Tokenized d ∧ q.Tokenized d
  | .not p => p.Tokenized d
  | .like e pattern _ _ => e.Tokenized d ∧ pattern.Tokenized d
  | .regex e pattern _ _ => e.Tokenized d ∧ pattern.Tokenized d
  | .clause _ => True
termination_by structural p => p

end

/-- The scalars of the aggregate hold no fragments. -/
def Aggregate.Tokenized (d : Dialect) : Aggregate → Prop
  | reduce _ e => e.Tokenized d
  | countRows => True
  | ratio n m _ => n.Tokenized d ∧ m.Tokenized d

theorem Scalar.tokenized_of_arithmetic {κ : Type} (d : Dialect) :
    ∀ e : Scalar κ, e.Arithmetic → e.Tokenized d
  | .column _, _ => trivial
  | .literal _, _ => trivial
  | .binary _ l r, ⟨hop, hl, hr⟩ =>
    ⟨fun h => absurd h hop, tokenized_of_arithmetic d l hl, tokenized_of_arithmetic d r hr⟩
termination_by structural e => e

/-- What clauses can say is written in tokens. -/
theorem Predicate.tokenized_of_elementary {κ : Type} (d : Dialect) :
    ∀ p : Predicate κ, p.Elementary → p.Tokenized d
  | .compare _ l r, ⟨hl, hr⟩ => ⟨l.tokenized_of_arithmetic d hl, r.tokenized_of_arithmetic d hr⟩
  | .member e _, he => e.tokenized_of_arithmetic d he
  | .range e _ _ _, he => e.tokenized_of_arithmetic d he
  | .isNull e, he => e.tokenized_of_arithmetic d he
  | .join _ p q, ⟨hp, hq⟩ => ⟨tokenized_of_elementary d p hp, tokenized_of_elementary d q hq⟩
  | .not p, hp => tokenized_of_elementary d p hp
  | .like e pattern _ _, ⟨he, hpattern⟩ =>
    ⟨e.tokenized_of_arithmetic d he, pattern.tokenized_of_arithmetic d hpattern⟩
termination_by structural p => p

end Crosstab
