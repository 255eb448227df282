import Crosstab.Expr.Eval
import Crosstab.Proofs.Cell.Written
import Crosstab.Proofs.Clause.Completeness

/-!
# What clauses can say

The grammar of clauses has no case distinctions, no calls and no regular expressions.  What a clause
stands for is `Elementary`: comparisons and tests of scalars that are made of columns and literals
by `+`, `-`, `*` and `/`, joined and negated (`Clause.elementary_of_parsed`).

Its cells are denoted by lexemes of the text (`Clause.Denoted`): they are null, truth values,
strings and the numbers that are written, with or without a minus sign.  The only other one is the
zero that a minus sign in front of a scalar subtracts from.  `Predicate.ElementaryOver C` adds to
`Elementary` that all cells satisfy `C`, and `Clause.elementaryOver_of_predicateOf` says it of the
cells that are denoted.
-/

namespace Crosstab

/-- The scalar is made of columns and literals by arithmetic. -/
def Scalar.Arithmetic {κ : Type} : Scalar κ → Prop
  | .column _ => True
  | .literal _ => True
  | .binary op l r => op ≠ .concat ∧ l.Arithmetic ∧ r.Arithmetic
  | _ => False
termination_by structural e => e

/-- The predicate compares and tests arithmetic, joins and negates. -/
def Predicate.Elementary {κ : Type} : Predicate κ → Prop
  | .compare _ l r => l.Arithmetic ∧ r.Arithmetic
  | .member e _ => e.Arithmetic
  | .range e _ _ _ => e.Arithmetic
  | .isNull e => e.Arithmetic
  | .join _ l r => l.Elementary ∧ r.Elementary
  | .not p => p.Elementary
  | .like e pattern _ _ => e.Arithmetic ∧ pattern.Arithmetic
  | .regex _ _ _ _ => False
  | .clause _ => False
termination_by structural p => p

/-- The scalar is made by arithmetic of columns, and of literals whose cells satisfy `C`. -/
def Scalar.ArithmeticOver {κ : Type} (C : Cell → Prop) : Scalar κ → Prop
  | .column _ => True
  | .literal value => C value
  | .binary op l r => op ≠ .concat ∧ l.ArithmeticOver C ∧ r.ArithmeticOver C
  | _ => False
termination_by structural e => e

/-- The predicate compares and tests arithmetic over cells that satisfy `C`, joins and negates. -/
def Predicate.ElementaryOver {κ : Type} (C : Cell → Prop) : Predicate κ → Prop
  | .compare _ l r => l.ArithmeticOver C ∧ r.ArithmeticOver C
  | .member e values => e.ArithmeticOver C ∧ ∀ c ∈ values, C c
  | .range e low high _ => e.ArithmeticOver C ∧ C low ∧ C high
  | .isNull e => e.ArithmeticOver C
  | .join _ l r => l.ElementaryOver C ∧ r.ElementaryOver C
  | .not p => p.ElementaryOver C
  | .like e pattern _ _ => e.ArithmeticOver C ∧ pattern.ArithmeticOver C
  | .regex _ _ _ _ => False
  | .clause _ => False
termination_by structural p => p

theorem Scalar.arithmetic_of_over {κ : Type} {C : Cell → Prop} :
    ∀ e : Scalar κ, e.ArithmeticOver C → e.Arithmetic
  | .column _, _ => trivial
  | .literal _, _ => trivial
  | .binary _ l r, ⟨hop, hl, hr⟩ => ⟨hop, arithmetic_of_over l hl, arithmetic_of_over r hr⟩

theorem Predicate.elementary_of_over {κ : Type} {C : Cell → Prop} :
    ∀ p : Predicate κ, p.ElementaryOver C → p.Elementary
  | .compare _ l r, ⟨hl, hr⟩ => ⟨l.arithmetic_of_over hl, r.arithmetic_of_over hr⟩
  | .member e _, ⟨he, _⟩ => e.arithmetic_of_over he
  | .range e _ _ _, ⟨he, _⟩ => e.arithmetic_of_over he
  | .isNull e, he => e.arithmetic_of_over he
  | .join _ p q, ⟨hp, hq⟩ => ⟨elementary_of_over p hp, elementary_of_over q hq⟩
  | .not p, hp => elementary_of_over p hp
  | .like e pattern _ _, ⟨he, hpattern⟩ =>
    ⟨e.arithmetic_of_over he, pattern.arithmetic_of_over hpattern⟩

namespace Clause

/-- A cell in what some lexemes stand for. -/
inductive Denoted (ts : List LexemeKind) : Cell → Prop where
  | literal {k : LexemeKind} {c : Cell} (hk : k ∈ ts) (hc : Grammar.Literal k c) : Denoted ts c
  | negative {numeral : String} (hk : .number numeral ∈ ts) :
    Denoted ts (numberCell numeral true)
  /-- The zero that a minus sign in front of a scalar subtracts from. -/
  | zero : Denoted ts (.int 0)

namespace Grammar

variable {us : List LexemeKind}

mutual

theorem Sum.arithmeticOver {ts e} : Sum ts e → ts ⊆ us → e.ArithmeticOver (Denoted us)
  | .product h, hts => h.arithmeticOver hts
  | .add hl hr, hts => by
    rw [List.append_subset, List.cons_subset] at hts
    exact ⟨nofun, hl.arithmeticOver hts.1, hr.arithmeticOver hts.2.2⟩
  | .sub hl hr, hts => by
    rw [List.append_subset, List.cons_subset] at hts
    exact ⟨nofun, hl.arithmeticOver hts.1, hr.arithmeticOver hts.2.2⟩

theorem Product.arithmeticOver {ts e} : Product ts e → ts ⊆ us → e.ArithmeticOver (Denoted us)
  | .signed h, hts => h.arithmeticOver hts
  | .mul hl hr, hts => by
    rw [List.append_subset, List.cons_subset] at hts
    exact ⟨nofun, hl.arithmeticOver hts.1, hr.arithmeticOver hts.2.2⟩
  | .div hl hr, hts => by
    rw [List.append_subset, List.cons_subset] at hts
    exact ⟨nofun, hl.arithmeticOver hts.1, hr.arithmeticOver hts.2.2⟩

theorem Signed.arithmeticOver {ts e} : Signed ts e → ts ⊆ us → e.ArithmeticOver (Denoted us)
  | .negative _, hts => .negative (hts (List.mem_cons_of_mem _ (List.mem_singleton_self _)))
  | .minus h _, hts => ⟨nofun, .zero, h.arithmeticOver (List.cons_subset.mp hts).2⟩
  | .atom h, hts => h.arithmeticOver hts

theorem Atom.arithmeticOver {ts e} : Atom ts e → ts ⊆ us → e.ArithmeticOver (Denoted us)
  | .name _, _ => trivial
  | .literal hk, hts => .literal (hts (List.mem_singleton_self _)) hk
  | .parens h, hts => by
    rw [List.append_subset, List.cons_subset] at hts
    exact h.arithmeticOver hts.1.2

end

theorem Value.denoted {ts : List LexemeKind} {c : Cell} (h : Value ts c) (hts : ts ⊆ us) :
    Denoted us c := by
  cases h with
  | negative numeral => exact .negative (hts (List.mem_cons_of_mem _ (List.mem_singleton_self _)))
  | literal hk => exact .literal (hts (List.mem_singleton_self _)) hk

theorem Values.denoted {ts : List LexemeKind} {cs : List Cell} (h : Values ts cs) (hts : ts ⊆ us) :
    ∀ c ∈ cs, Denoted us c := by
  induction h with
  | one h =>
    intro c hc
    obtain rfl := List.mem_singleton.mp hc
    exact h.denoted hts
  | more h _ ih =>
    rw [List.append_subset, List.cons_subset] at hts
    exact List.forall_mem_cons.mpr ⟨h.denoted hts.1, ih hts.2.2⟩

theorem Test.elementaryOver {e : Scalar Empty} {ts p} (he : e.ArithmeticOver (Denoted us))
    (h : Test e ts p) (hts : ts ⊆ us) : p.ElementaryOver (Denoted us) := by
  cases h with
  | between hlow hhigh =>
    rw [List.append_subset, List.cons_subset, List.cons_subset] at hts
    exact ⟨he, hlow.arithmeticOver hts.1.2, hhigh.arithmeticOver hts.2.2⟩
  | amongNone => exact ⟨he, List.forall_mem_nil _⟩
  | among hvalues =>
    rw [List.append_subset, List.cons_subset, List.cons_subset] at hts
    exact ⟨he, hvalues.denoted hts.1.2.2⟩
  | like hpattern => exact ⟨he, hpattern.arithmeticOver (List.cons_subset.mp hts).2⟩
  | ilike hpattern => exact ⟨he, hpattern.arithmeticOver (List.cons_subset.mp hts).2⟩

theorem Comparison.elementaryOver {ts p} (h : Comparison ts p) (hts : ts ⊆ us) :
    p.ElementaryOver (Denoted us) := by
  cases h with
  | isNull h => exact h.arithmeticOver (List.append_subset.mp hts).1
  | isNotNull h =>
    have hp := h.arithmeticOver (List.append_subset.mp hts).1
    exact hp
  | test h ht =>
    rw [List.append_subset] at hts
    exact ht.elementaryOver (h.arithmeticOver hts.1) hts.2
  | notTest h ht =>
    rw [List.append_subset, List.cons_subset] at hts
    have hp := ht.elementaryOver (h.arithmeticOver hts.1) hts.2.2
    exact hp
  | compare hl _ hr =>
    rw [List.append_subset, List.cons_subset] at hts
    exact ⟨hl.arithmeticOver hts.1, hr.arithmeticOver hts.2.2⟩

mutual

theorem Disjunction.elementaryOver {ts p} :
    Disjunction ts p → ts ⊆ us → p.ElementaryOver (Denoted us)
  | .conjunction h, hts => h.elementaryOver hts
  | .or hl hr, hts => by
    rw [List.append_subset, List.cons_subset] at hts
    exact ⟨hl.elementaryOver hts.1, hr.elementaryOver hts.2.2⟩

theorem Conjunction.elementaryOver {ts p} :
    Conjunction ts p → ts ⊆ us → p.ElementaryOver (Denoted us)
  | .negation h, hts => h.elementaryOver hts
  | .and hl hr, hts => by
    rw [List.append_subset, List.cons_subset] at hts
    exact ⟨hl.elementaryOver hts.1, hr.elementaryOver hts.2.2⟩

theorem Negation.elementaryOver {ts p} : Negation ts p → ts ⊆ us → p.ElementaryOver (Denoted us)
  | .not h, hts => h.elementaryOver (List.cons_subset.mp hts).2
  | .group h, hts => h.elementaryOver hts

theorem Group.elementaryOver {ts p} : Group ts p → ts ⊆ us → p.ElementaryOver (Denoted us)
  | .parens h, hts => by
    rw [List.append_subset, List.cons_subset] at hts
    exact h.elementaryOver hts.1.2
  | .comparison h, hts => h.elementaryOver hts

end

end Grammar

/-- **What the cells of a clause are**: those that the lexemes of its text denote. -/
theorem elementaryOver_of_predicateOf {s : String} {p : PlainCondition}
    (h : predicateOf s = .ok p) :
    ∃ ls, lexemes s = .ok ls ∧ p.ElementaryOver (Denoted (kinds ls)) := by
  obtain ⟨ls, hls, -⟩ := bind_eq_ok_iff.mp h
  exact ⟨ls, hls, (derives_of_predicateOf hls h).elementaryOver (List.Subset.refl _)⟩

/-- A text that reads as a predicate reads as an elementary one. -/
theorem elementary_of_predicateOf {s : String} {p : PlainCondition} (h : predicateOf s = .ok p) :
    p.Elementary := by
  obtain ⟨ls, -, hp⟩ := elementaryOver_of_predicateOf h
  exact p.elementary_of_over hp

/-- **What a clause stands for** is elementary. -/
theorem elementary_of_parsed {c : Clause} {p : PlainCondition} (h : c.parsed = .ok p) :
    p.Elementary := by
  simp only [parsed, predicate, mapError_eq_ok_iff] at h
  exact elementary_of_predicateOf h

/-! ## Numbers -/

/-- A number is a whole number or a float. -/
theorem numberCell_cases (numeral : String) (negative : Bool) :
    (∃ n, numberCell numeral negative = .int n) ∨ ∃ x, numberCell numeral negative = .float x := by
  unfold numberCell
  dsimp only
  split
  · split
    · next n _ => exact .inl ⟨n, rfl⟩
    · exact .inr ⟨_, rfl⟩
  · exact .inr ⟨_, rfl⟩

/-- A cell of a clause is a float only if a number of its text spells it, and it is neither a date
nor a timestamp. -/
theorem Denoted.cases {ts : List LexemeKind} {c : Cell} (h : Denoted ts c) :
    (∃ numeral negative, .number numeral ∈ ts ∧ numberCell numeral negative = c) ∨
      (∀ x, c ≠ .float x) ∧ c.Portable := by
  cases h with
  | @literal k _ hk hc =>
    cases hc with
    | number numeral => exact .inl ⟨numeral, false, hk, rfl⟩
    | _ => exact .inr ⟨nofun, trivial⟩
  | @negative numeral hk => exact .inl ⟨numeral, true, hk, rfl⟩
  | zero => exact .inr ⟨nofun, trivial⟩

/-- A float in a clause is spelled by a number of its text. -/
theorem Denoted.exists_number {ts : List LexemeKind} {x : Binary64} (h : Denoted ts (.float x)) :
    ∃ numeral negative, .number numeral ∈ ts ∧ numberCell numeral negative = .float x := by
  rcases h.cases with hnumber | ⟨hno, -⟩
  · exact hnumber
  · exact absurd rfl (hno x)

/-- A cell of a clause has a literal, unless it is a float that is not finite. -/
theorem Denoted.portable {ts : List LexemeKind} {c : Cell} (h : Denoted ts c) (hc : c.Finite) :
    c.Portable := by
  rcases h.cases with ⟨numeral, negative, -, rfl⟩ | ⟨-, hportable⟩
  · rcases numberCell_cases numeral negative with ⟨n, hn⟩ | ⟨x, hx⟩
    · rw [hn]
      trivial
    · rw [hx] at hc ⊢
      exact hc
  · exact hportable

end Clause

end Crosstab
