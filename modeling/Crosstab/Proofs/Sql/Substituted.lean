import Crosstab.Proofs.Clause.Completeness
import Crosstab.Proofs.Expr.Dependencies
import Crosstab.Sql.Aliases

/-!
# Conditions with aliases put in

Putting texts in place of names succeeds if every clause of a condition reads
(`Predicate.isOk_substitute`).  No clause is left in the outcome, and no name that has a text
(`Predicate.columns_of_substitute`), so there is nothing left to do for a second run
(`substituted_complete`).
-/

namespace Crosstab

/-! ## Clauses -/

mutual

/-- The clauses of a scalar, at any depth. -/
def Scalar.clauses {κ : Type} : Scalar κ → List κ
  | .column _ => []
  | .literal _ => []
  | .binary _ l r => l.clauses ++ r.clauses
  | .safeDiv n m _ => n.clauses ++ m.clauses
  | .coalesce args => Scalar.clausesOfList args
  | .caseWhen branches none => Scalar.clausesOfBranches branches
  | .caseWhen branches (some e) => Scalar.clausesOfBranches branches ++ e.clauses
  | .fragment _ => []
termination_by structural e => e

/-- The clauses of some scalars. -/
def Scalar.clausesOfList {κ : Type} : List (Scalar κ) → List κ
  | [] => []
  | e :: rest => e.clauses ++ Scalar.clausesOfList rest
termination_by structural es => es

/-- The clauses of some branches. -/
def Scalar.clausesOfBranches {κ : Type} : List (Predicate κ × Scalar κ) → List κ
  | [] => []
  | (p, e) :: rest => p.clauses ++ (e.clauses ++ Scalar.clausesOfBranches rest)
termination_by structural bs => bs

/-- The clauses of a predicate, at any depth. -/
def Predicate.clauses {κ : Type} : Predicate κ → List κ
  | .compare _ l r => l.clauses ++ r.clauses
  | .member e _ => e.clauses
  | .range e _ _ _ => e.clauses
  | .isNull e => e.clauses
  | .join _ p q => p.clauses ++ q.clauses
  | .not p => p.clauses
  | .like e pattern _ _ => e.clauses ++ pattern.clauses
  | .regex e pattern _ _ => e.clauses ++ pattern.clauses
  | .clause c => [c]
termination_by structural p => p

end

section

variable {κ : Type}

mutual

theorem Scalar.exists_plain (f : Empty → Predicate κ) : ∀ e : Scalar κ, e.clauses = [] →
    ∃ e' : Scalar Empty, e'.bindClauses f = e
  | .column name, _ => ⟨.column name, rfl⟩
  | .literal value, _ => ⟨.literal value, rfl⟩
  | .binary op l r, he => by
    obtain ⟨hl, hr⟩ := List.append_eq_nil_iff.mp he
    obtain ⟨l', rfl⟩ := Scalar.exists_plain f l hl
    obtain ⟨r', rfl⟩ := Scalar.exists_plain f r hr
    exact ⟨.binary op l' r', rfl⟩
  | .safeDiv n m fill, he => by
    obtain ⟨hn, hm⟩ := List.append_eq_nil_iff.mp he
    obtain ⟨n', rfl⟩ := Scalar.exists_plain f n hn
    obtain ⟨m', rfl⟩ := Scalar.exists_plain f m hm
    exact ⟨.safeDiv n' m' fill, rfl⟩
  | .coalesce args, he => by
    obtain ⟨args', rfl⟩ := Scalar.exists_plainList f args he
    exact ⟨.coalesce args', rfl⟩
  | .caseWhen branches none, he => by
    obtain ⟨branches', rfl⟩ := Scalar.exists_plainBranches f branches he
    exact ⟨.caseWhen branches' none, rfl⟩
  | .caseWhen branches (some last), he => by
    obtain ⟨hbranches, hlast⟩ := List.append_eq_nil_iff.mp he
    obtain ⟨branches', rfl⟩ := Scalar.exists_plainBranches f branches hbranches
    obtain ⟨last', rfl⟩ := Scalar.exists_plain f last hlast
    exact ⟨.caseWhen branches' (some last'), rfl⟩
  | .fragment text, _ => ⟨.fragment text, rfl⟩
termination_by structural e => e

theorem Scalar.exists_plainList (f : Empty → Predicate κ) :
    ∀ es : List (Scalar κ), Scalar.clausesOfList es = [] →
      ∃ es' : List (Scalar Empty), Scalar.bindClausesList f es' = es
  | [], _ => ⟨[], rfl⟩
  | e :: rest, hes => by
    obtain ⟨he, hrest⟩ := List.append_eq_nil_iff.mp hes
    obtain ⟨e', rfl⟩ := Scalar.exists_plain f e he
    obtain ⟨rest', rfl⟩ := Scalar.exists_plainList f rest hrest
    exact ⟨e' :: rest', rfl⟩
termination_by structural es => es

theorem Scalar.exists_plainBranches (f : Empty → Predicate κ) :
    ∀ bs : List (Predicate κ × Scalar κ), Scalar.clausesOfBranches bs = [] →
      ∃ bs' : List (PlainCondition × Scalar Empty), Scalar.bindClausesBranches f bs' = bs
  | [], _ => ⟨[], rfl⟩
  | (p, e) :: rest, hbs => by
    obtain ⟨hp, hmore⟩ := List.append_eq_nil_iff.mp hbs
    obtain ⟨he, hrest⟩ := List.append_eq_nil_iff.mp hmore
    obtain ⟨p', rfl⟩ := Predicate.exists_plain f p hp
    obtain ⟨e', rfl⟩ := Scalar.exists_plain f e he
    obtain ⟨rest', rfl⟩ := Scalar.exists_plainBranches f rest hrest
    exact ⟨(p', e') :: rest', rfl⟩
termination_by structural bs => bs

/-- A predicate that holds no clause is a plain one. -/
theorem Predicate.exists_plain (f : Empty → Predicate κ) :
    ∀ p : Predicate κ, p.clauses = [] → ∃ q : PlainCondition, q.bindClauses f = p
  | .compare op l r, hp => by
    obtain ⟨hl, hr⟩ := List.append_eq_nil_iff.mp hp
    obtain ⟨l', rfl⟩ := Scalar.exists_plain f l hl
    obtain ⟨r', rfl⟩ := Scalar.exists_plain f r hr
    exact ⟨.compare op l' r', rfl⟩
  | .member e values, hp => by
    obtain ⟨e', rfl⟩ := Scalar.exists_plain f e hp
    exact ⟨.member e' values, rfl⟩
  | .range e low high bounds, hp => by
    obtain ⟨e', rfl⟩ := Scalar.exists_plain f e hp
    exact ⟨.range e' low high bounds, rfl⟩
  | .isNull e, hp => by
    obtain ⟨e', rfl⟩ := Scalar.exists_plain f e hp
    exact ⟨.isNull e', rfl⟩
  | .join op l r, hp => by
    obtain ⟨hl, hr⟩ := List.append_eq_nil_iff.mp hp
    obtain ⟨l', rfl⟩ := Predicate.exists_plain f l hl
    obtain ⟨r', rfl⟩ := Predicate.exists_plain f r hr
    exact ⟨.join op l' r', rfl⟩
  | .not p, hp => by
    obtain ⟨p', rfl⟩ := Predicate.exists_plain f p hp
    exact ⟨.not p', rfl⟩
  | .like e pattern ignoreCase negated, hp => by
    obtain ⟨he, hpattern⟩ := List.append_eq_nil_iff.mp hp
    obtain ⟨e', rfl⟩ := Scalar.exists_plain f e he
    obtain ⟨pattern', rfl⟩ := Scalar.exists_plain f pattern hpattern
    exact ⟨.like e' pattern' ignoreCase negated, rfl⟩
  | .regex e pattern flags negated, hp => by
    obtain ⟨he, hpattern⟩ := List.append_eq_nil_iff.mp hp
    obtain ⟨e', rfl⟩ := Scalar.exists_plain f e he
    obtain ⟨pattern', rfl⟩ := Scalar.exists_plain f pattern hpattern
    exact ⟨.regex e' pattern' flags negated, rfl⟩
  | .clause _, hp => absurd hp (List.cons_ne_nil _ _)
termination_by structural p => p

end

end

/-! ## What succeeds -/

section

variable {κ : Type} {h : κ → Outcome PlainCondition} {aliases : Aliases}

/-- The text of a column that has one stands alone. -/
theorem Scalar.substitute_column (name : String) : (column name).substitute h aliases =
    .ok (match aliases.text? name with
      | some text => .fragment text
      | none => .column name) := by
  simp only [Scalar.substitute]
  cases aliases.text? name <;> rfl

mutual

theorem Scalar.isOk_substitute : ∀ e : Scalar κ,
    (e.substitute h aliases).isOk = e.clauses.all fun c => (h c).isOk
  | .column name => by
    rw [Scalar.substitute_column]
    rfl
  | .literal _ => rfl
  | .binary op l r => by
    simp only [Scalar.substitute, Scalar.clauses, isOk_bind_both_pure, List.all_append,
      Scalar.isOk_substitute l, Scalar.isOk_substitute r]
  | .safeDiv n m fill => by
    simp only [Scalar.substitute, Scalar.clauses, isOk_bind_both_pure, List.all_append,
      Scalar.isOk_substitute n, Scalar.isOk_substitute m]
  | .coalesce args => by
    simp only [Scalar.substitute, Scalar.clauses, isOk_bind_pure, Scalar.isOk_substituteList args]
  | .caseWhen branches none => by
    simp only [Scalar.substitute, Scalar.clauses, isOk_bind_pure,
      Scalar.isOk_substituteBranches branches]
  | .caseWhen branches (some e) => by
    simp only [Scalar.substitute, Scalar.clauses, isOk_bind_both_pure, List.all_append,
      Scalar.isOk_substituteBranches branches, Scalar.isOk_substitute e]
  | .fragment _ => rfl
termination_by structural e => e

theorem Scalar.isOk_substituteList : ∀ es : List (Scalar κ),
    (Scalar.substituteList h aliases es).isOk = (Scalar.clausesOfList es).all fun c => (h c).isOk
  | [] => rfl
  | e :: rest => by
    simp only [Scalar.substituteList, Scalar.clausesOfList, isOk_bind_both_pure, List.all_append,
      Scalar.isOk_substitute e, Scalar.isOk_substituteList rest]
termination_by structural es => es

theorem Scalar.isOk_substituteBranches : ∀ bs : List (Predicate κ × Scalar κ),
    (Scalar.substituteBranches h aliases bs).isOk =
      (Scalar.clausesOfBranches bs).all fun c => (h c).isOk
  | [] => rfl
  | (p, e) :: rest => by
    simp only [Scalar.substituteBranches, Scalar.clausesOfBranches, List.all_append,
      ← Predicate.isOk_substitute p, ← Scalar.isOk_substitute e,
      ← Scalar.isOk_substituteBranches rest]
    cases p.substitute h aliases with
    | error => rfl
    | ok p => exact isOk_bind_both_pure _ _ _
termination_by structural bs => bs

/-- Putting texts in place of names succeeds if every clause reads. -/
theorem Predicate.isOk_substitute : ∀ p : Predicate κ,
    (p.substitute h aliases).isOk = p.clauses.all fun c => (h c).isOk
  | .compare op l r => by
    simp only [Predicate.substitute, Predicate.clauses, isOk_bind_both_pure, List.all_append,
      Scalar.isOk_substitute l, Scalar.isOk_substitute r]
  | .member e values => by
    simp only [Predicate.substitute, Predicate.clauses, isOk_bind_pure, Scalar.isOk_substitute e]
  | .range e low high bounds => by
    simp only [Predicate.substitute, Predicate.clauses, isOk_bind_pure, Scalar.isOk_substitute e]
  | .isNull e => by
    simp only [Predicate.substitute, Predicate.clauses, isOk_bind_pure, Scalar.isOk_substitute e]
  | .join op l r => by
    simp only [Predicate.substitute, Predicate.clauses, isOk_bind_both_pure, List.all_append,
      Predicate.isOk_substitute l, Predicate.isOk_substitute r]
  | .not p => by
    simp only [Predicate.substitute, Predicate.clauses, isOk_bind_pure, Predicate.isOk_substitute p]
  | .like e pattern ignoreCase negated => by
    simp only [Predicate.substitute, Predicate.clauses, isOk_bind_both_pure, List.all_append,
      Scalar.isOk_substitute e, Scalar.isOk_substitute pattern]
  | .regex e pattern flags negated => by
    simp only [Predicate.substitute, Predicate.clauses, isOk_bind_both_pure, List.all_append,
      Scalar.isOk_substitute e, Scalar.isOk_substitute pattern]
  | .clause c => by
    simp only [Predicate.substitute, Predicate.clauses, List.all_cons, List.all_nil, Bool.and_true]
termination_by structural p => p

end

theorem Clause.isOk_substitute (c : Clause) : (c.substitute aliases).isOk = c.parsed.isOk := by
  unfold Clause.substitute
  cases c.parsed with
  | error e => rfl
  | ok p =>
    rw [ok_bind, Predicate.isOk_substitute, List.all_eq_true.mpr fun c => nomatch c]
    rfl

/-! ## Which columns are left -/

/-- The names that have a text. -/
def Aliases.names (aliases : Aliases) : List String := aliases.map Prod.fst

theorem Aliases.text?_eq_none_iff {name : String} :
    aliases.text? name = none ↔ name ∉ aliases.names := by
  rw [Aliases.text?, List.lookup_eq_none_iff, Aliases.names, List.mem_map]
  constructor
  · rintro hnone ⟨entry, hentry, rfl⟩
    simpa using hnone entry (List.mem_reverse.mpr hentry)
  · rintro hname entry hentry
    exact bne_iff_ne.mpr fun heq => hname ⟨entry, List.mem_reverse.mp hentry, heq.symm⟩

section

variable {names : κ → List String}

/-- Of the names of a clause those without a text are left. -/
def Clears (h : κ → Outcome PlainCondition) (names : κ → List String) (aliases : Aliases) : Prop :=
  ∀ c q, h c = .ok q → q.columns noClauses = (names c).filter (· ∉ aliases.names)

mutual

theorem Scalar.columns_of_substitute (hC : Clears h names aliases) :
    ∀ (e : Scalar κ) {e' : Scalar Empty}, e.substitute h aliases = .ok e' →
      e'.columns noClauses = (e.columns names).filter (· ∉ aliases.names)
  | .column name, e', he => by
    rw [Scalar.substitute_column] at he
    cases he
    cases htext : aliases.text? name with
    | none =>
      have hname := Aliases.text?_eq_none_iff.mp htext
      simp [Scalar.columns, hname]
    | some text =>
      have hname : name ∈ aliases.names := by
        by_contra hname
        rw [Aliases.text?_eq_none_iff.mpr hname] at htext
        cases htext
      simp [Scalar.columns, hname]
  | .literal _, _, he => by
    cases he
    rfl
  | .binary op l r, e', he => by
    obtain ⟨l', r', hl, hr, hpure⟩ := bind_both_eq_ok_iff.mp he
    cases hpure
    simp only [Scalar.columns, List.filter_append, Scalar.columns_of_substitute hC l hl,
      Scalar.columns_of_substitute hC r hr]
  | .safeDiv n m fill, e', he => by
    obtain ⟨n', m', hn, hm, hpure⟩ := bind_both_eq_ok_iff.mp he
    cases hpure
    simp only [Scalar.columns, List.filter_append, Scalar.columns_of_substitute hC n hn,
      Scalar.columns_of_substitute hC m hm]
  | .coalesce args, e', he => by
    obtain ⟨args', hargs, hpure⟩ := bind_eq_ok_iff.mp he
    cases hpure
    exact Scalar.columnsOfList_of_substitute hC args hargs
  | .caseWhen branches none, e', he => by
    obtain ⟨branches', hbranches, hpure⟩ := bind_eq_ok_iff.mp he
    cases hpure
    exact Scalar.columnsOfBranches_of_substitute hC branches hbranches
  | .caseWhen branches (some last), e', he => by
    obtain ⟨branches', last', hbranches, hlast, hpure⟩ := bind_both_eq_ok_iff.mp he
    cases hpure
    simp only [Scalar.columns, List.filter_append, Scalar.columns_of_substitute hC last hlast,
      Scalar.columnsOfBranches_of_substitute hC branches hbranches]
  | .fragment _, _, he => by
    cases he
    rfl
termination_by structural e => e

theorem Scalar.columnsOfList_of_substitute (hC : Clears h names aliases) :
    ∀ (es : List (Scalar κ)) {es' : List (Scalar Empty)},
      Scalar.substituteList h aliases es = .ok es' →
        Scalar.columnsOfList noClauses es' =
          (Scalar.columnsOfList names es).filter (· ∉ aliases.names)
  | [], _, hes => by
    cases hes
    rfl
  | e :: rest, es', hes => by
    obtain ⟨e', rest', he, hrest, hpure⟩ := bind_both_eq_ok_iff.mp hes
    cases hpure
    simp only [Scalar.columnsOfList, List.filter_append, Scalar.columns_of_substitute hC e he,
      Scalar.columnsOfList_of_substitute hC rest hrest]
termination_by structural es => es

theorem Scalar.columnsOfBranches_of_substitute (hC : Clears h names aliases) :
    ∀ (bs : List (Predicate κ × Scalar κ)) {bs' : List (PlainCondition × Scalar Empty)},
      Scalar.substituteBranches h aliases bs = .ok bs' →
        Scalar.columnsOfBranches noClauses bs' =
          (Scalar.columnsOfBranches names bs).filter (· ∉ aliases.names)
  | [], _, hbs => by
    cases hbs
    rfl
  | (p, e) :: rest, bs', hbs => by
    obtain ⟨p', hp, hmore⟩ := bind_eq_ok_iff.mp hbs
    obtain ⟨e', rest', he, hrest, hpure⟩ := bind_both_eq_ok_iff.mp hmore
    cases hpure
    simp only [Scalar.columnsOfBranches, List.filter_append,
      Predicate.columns_of_substitute hC p hp, Scalar.columns_of_substitute hC e he,
      Scalar.columnsOfBranches_of_substitute hC rest hrest]
termination_by structural bs => bs

/-- Putting texts in place of names leaves the columns whose names have none. -/
theorem Predicate.columns_of_substitute (hC : Clears h names aliases) :
    ∀ (p : Predicate κ) {q : PlainCondition}, p.substitute h aliases = .ok q →
      q.columns noClauses = (p.columns names).filter (· ∉ aliases.names)
  | .compare op l r, q, hp => by
    obtain ⟨l', r', hl, hr, hpure⟩ := bind_both_eq_ok_iff.mp hp
    cases hpure
    simp only [Predicate.columns, List.filter_append, Scalar.columns_of_substitute hC l hl,
      Scalar.columns_of_substitute hC r hr]
  | .member e values, q, hp => by
    obtain ⟨e', he, hpure⟩ := bind_eq_ok_iff.mp hp
    cases hpure
    exact Scalar.columns_of_substitute hC e he
  | .range e low high bounds, q, hp => by
    obtain ⟨e', he, hpure⟩ := bind_eq_ok_iff.mp hp
    cases hpure
    exact Scalar.columns_of_substitute hC e he
  | .isNull e, q, hp => by
    obtain ⟨e', he, hpure⟩ := bind_eq_ok_iff.mp hp
    cases hpure
    exact Scalar.columns_of_substitute hC e he
  | .join op l r, q, hp => by
    obtain ⟨l', r', hl, hr, hpure⟩ := bind_both_eq_ok_iff.mp hp
    cases hpure
    simp only [Predicate.columns, List.filter_append, Predicate.columns_of_substitute hC l hl,
      Predicate.columns_of_substitute hC r hr]
  | .not p, q, hp => by
    obtain ⟨p', hinner, hpure⟩ := bind_eq_ok_iff.mp hp
    cases hpure
    simp only [Predicate.columns, Predicate.columns_of_substitute hC p hinner]
  | .like e pattern ignoreCase negated, q, hp => by
    obtain ⟨e', pattern', he, hpattern, hpure⟩ := bind_both_eq_ok_iff.mp hp
    cases hpure
    simp only [Predicate.columns, List.filter_append, Scalar.columns_of_substitute hC e he,
      Scalar.columns_of_substitute hC pattern hpattern]
  | .regex e pattern flags negated, q, hp => by
    obtain ⟨e', pattern', he, hpattern, hpure⟩ := bind_both_eq_ok_iff.mp hp
    cases hpure
    simp only [Predicate.columns, List.filter_append, Scalar.columns_of_substitute hC e he,
      Scalar.columns_of_substitute hC pattern hpattern]
  | .clause c, q, hp => hC c q hp
termination_by structural p => p

end

/-! ## Nothing left to do -/

mutual

theorem Scalar.substitute_bindClauses (f : Empty → Predicate κ) : ∀ e : Scalar Empty,
    (∀ name ∈ e.columns noClauses, name ∉ aliases.names) →
      (e.bindClauses f).substitute h aliases = .ok e
  | .column name, hfree => by
    have hname := Aliases.text?_eq_none_iff.mpr (hfree name List.mem_cons_self)
    simp only [Scalar.bindClauses, Scalar.substitute, hname]
  | .literal _, _ => rfl
  | .binary op l r, hfree => by
    simp only [Scalar.columns, List.mem_append, or_imp, forall_and] at hfree
    simp only [Scalar.bindClauses, Scalar.substitute, Scalar.substitute_bindClauses f l hfree.1,
      Scalar.substitute_bindClauses f r hfree.2, ok_bind]
    rfl
  | .safeDiv n m fill, hfree => by
    simp only [Scalar.columns, List.mem_append, or_imp, forall_and] at hfree
    simp only [Scalar.bindClauses, Scalar.substitute, Scalar.substitute_bindClauses f n hfree.1,
      Scalar.substitute_bindClauses f m hfree.2, ok_bind]
    rfl
  | .coalesce args, hfree => by
    simp only [Scalar.bindClauses, Scalar.substitute,
      Scalar.substituteList_bindClauses f args hfree, ok_bind]
    rfl
  | .caseWhen branches none, hfree => by
    simp only [Scalar.bindClauses, Scalar.substitute,
      Scalar.substituteBranches_bindClauses f branches hfree, ok_bind]
    rfl
  | .caseWhen branches (some e), hfree => by
    simp only [Scalar.columns, List.mem_append, or_imp, forall_and] at hfree
    simp only [Scalar.bindClauses, Scalar.substitute,
      Scalar.substituteBranches_bindClauses f branches hfree.1,
      Scalar.substitute_bindClauses f e hfree.2, ok_bind]
    rfl
  | .fragment _, _ => rfl
termination_by structural e => e

theorem Scalar.substituteList_bindClauses (f : Empty → Predicate κ) : ∀ es : List (Scalar Empty),
    (∀ name ∈ Scalar.columnsOfList noClauses es, name ∉ aliases.names) →
      Scalar.substituteList h aliases (Scalar.bindClausesList f es) = .ok es
  | [], _ => rfl
  | e :: rest, hfree => by
    simp only [Scalar.columnsOfList, List.mem_append, or_imp, forall_and] at hfree
    simp only [Scalar.bindClausesList, Scalar.substituteList,
      Scalar.substitute_bindClauses f e hfree.1, Scalar.substituteList_bindClauses f rest hfree.2,
      ok_bind]
    rfl
termination_by structural es => es

theorem Scalar.substituteBranches_bindClauses (f : Empty → Predicate κ) :
    ∀ bs : List (PlainCondition × Scalar Empty),
      (∀ name ∈ Scalar.columnsOfBranches noClauses bs, name ∉ aliases.names) →
        Scalar.substituteBranches h aliases (Scalar.bindClausesBranches f bs) = .ok bs
  | [], _ => rfl
  | (p, e) :: rest, hfree => by
    simp only [Scalar.columnsOfBranches, List.mem_append, or_imp, forall_and] at hfree
    simp only [Scalar.bindClausesBranches, Scalar.substituteBranches,
      Predicate.substitute_bindClauses f p hfree.1.1, Scalar.substitute_bindClauses f e hfree.1.2,
      Scalar.substituteBranches_bindClauses f rest hfree.2, ok_bind]
    rfl
termination_by structural bs => bs

/-- A predicate without clauses that names nothing that has a text stays as it is. -/
theorem Predicate.substitute_bindClauses (f : Empty → Predicate κ) : ∀ q : PlainCondition,
    (∀ name ∈ q.columns noClauses, name ∉ aliases.names) →
      (q.bindClauses f).substitute h aliases = .ok q
  | .compare op l r, hfree => by
    simp only [Predicate.columns, List.mem_append, or_imp, forall_and] at hfree
    simp only [Predicate.bindClauses, Predicate.substitute,
      Scalar.substitute_bindClauses f l hfree.1, Scalar.substitute_bindClauses f r hfree.2, ok_bind]
    rfl
  | .member e values, hfree => by
    simp only [Predicate.bindClauses, Predicate.substitute, Scalar.substitute_bindClauses f e hfree,
      ok_bind]
    rfl
  | .range e low high bounds, hfree => by
    simp only [Predicate.bindClauses, Predicate.substitute, Scalar.substitute_bindClauses f e hfree,
      ok_bind]
    rfl
  | .isNull e, hfree => by
    simp only [Predicate.bindClauses, Predicate.substitute, Scalar.substitute_bindClauses f e hfree,
      ok_bind]
    rfl
  | .join op l r, hfree => by
    simp only [Predicate.columns, List.mem_append, or_imp, forall_and] at hfree
    simp only [Predicate.bindClauses, Predicate.substitute,
      Predicate.substitute_bindClauses f l hfree.1, Predicate.substitute_bindClauses f r hfree.2,
      ok_bind]
    rfl
  | .not q, hfree => by
    simp only [Predicate.columns] at hfree
    simp only [Predicate.bindClauses, Predicate.substitute,
      Predicate.substitute_bindClauses f q hfree, ok_bind]
    rfl
  | .like e pattern ignoreCase negated, hfree => by
    simp only [Predicate.columns, List.mem_append, or_imp, forall_and] at hfree
    simp only [Predicate.bindClauses, Predicate.substitute,
      Scalar.substitute_bindClauses f e hfree.1, Scalar.substitute_bindClauses f pattern hfree.2,
      ok_bind]
    rfl
  | .regex e pattern flags negated, hfree => by
    simp only [Predicate.columns, List.mem_append, or_imp, forall_and] at hfree
    simp only [Predicate.bindClauses, Predicate.substitute,
      Scalar.substitute_bindClauses f e hfree.1, Scalar.substitute_bindClauses f pattern hfree.2,
      ok_bind]
    rfl
  | .clause c, _ => nomatch c
termination_by structural q => q

end

end

end

theorem noClauses_clears (aliases : Aliases) : Clears noClauses noClauses aliases := by
  intro c
  exact nomatch c

theorem Clause.columns_of_parsed {c : Clause} {p : PlainCondition} (h : c.parsed = .ok p) :
    c.columns = p.columns noClauses := by
  unfold Clause.columns
  rw [mapError_eq_ok_iff.mp h]

theorem Clause.substitute_clears (aliases : Aliases) :
    Clears (Clause.substitute aliases) Clause.columns aliases := by
  intro c q hq
  obtain ⟨p, hp, hsub⟩ := bind_eq_ok_iff.mp hq
  rw [Predicate.columns_of_substitute (noClauses_clears aliases) p hsub,
    Clause.columns_of_parsed hp]

/-- A plain condition holds no clause. -/
theorem Predicate.clauses_widen {κ : Type} (q : PlainCondition) :
    (q.widen : Predicate κ).clauses = [] := by
  -- Without aliases nothing changes in a plain condition, even if no clause reads.
  have hok : (q.widen.substitute (fun _ : κ => reject .unreadable) []).isOk = true := by
    rw [widen, substitute_bindClauses]
    · rfl
    · intro name _
      exact List.not_mem_nil
  rw [isOk_substitute] at hok
  refine List.eq_nil_iff_forall_not_mem.mpr fun c hc => ?_
  cases List.all_eq_true.mp hok c hc

/-- **Putting texts in place of names leaves nothing to do.**  The outcome holds no clause, it reads
the columns of the condition that have no text, and a second run gives the same condition.  Without
texts, a condition without clauses stays as it is. -/
theorem substituted_complete (p : Condition) (aliases : Aliases) :
    (∀ q, p.substituted aliases = .ok q →
      (q.widen : Condition).clauses = [] ∧
      q.dependencies = p.dependencies.filter (· ∉ aliases.names) ∧
      Condition.substituted q.widen aliases = .ok q) ∧
    (p.clauses = [] → ∃ r, p.substituted [] = .ok r ∧ r.widen = p) := by
  refine ⟨fun q hq => ?_, fun hp => ?_⟩
  · have hcolumns : q.columns noClauses =
        (p.columns Clause.columns).filter (· ∉ aliases.names) :=
      Predicate.columns_of_substitute (Clause.substitute_clears aliases) p hq
    refine ⟨q.clauses_widen, ?_, ?_⟩
    · exact (congrArg sortedNames hcolumns).trans (sortedNames_filter _ _)
    · refine Predicate.substitute_bindClauses _ q fun name hname => ?_
      rw [hcolumns] at hname
      exact of_decide_eq_true (List.mem_filter.mp hname).2
  · obtain ⟨r, rfl⟩ := Predicate.exists_plain noClauses p hp
    exact ⟨r, Predicate.substitute_bindClauses _ r fun _ _ => List.not_mem_nil, rfl⟩

/-- More clicks than the column of the site says. -/
def clicksClause : Clause := ⟨"HAVING clicks > site", .ansi⟩

theorem parsed_clicksClause :
    clicksClause.parsed = .ok (.compare .gt (.column "clicks") (.column "site")) := by
  have hbody : String.ofList (Clause.body "HAVING clicks > site") = " clicks > site" := by
    decide +kernel
  have hread : Clause.predicateOf " clicks > site" =
      .ok (.compare .gt (.column "clicks") (.column "site")) := by
    refine Clause.predicateOf_of_derives (s := " clicks > site") rfl ?_
    exact .conjunction (.negation (.group (.comparison (.compare
      (.product (.signed (.atom (.name "clicks")))) rfl
      (.product (.signed (.atom (.name "site"))))))))
  rw [clicksClause, Clause.parsed, Clause.predicate, hbody, hread]
  rfl

/-- At least ten clicks, but not more than the clause says. -/
def fewClicks : Condition :=
  .join .and (.compare .ge (.column "clicks") (.literal (.int 10))) (.not (.clause clicksClause))

/-- The clicks as they are counted. -/
def clicksAlias : Aliases := [("clicks", "SUM(\"clicks\")")]

/-- The same condition on the clicks as they are counted. -/
def fewCountedClicks : PlainCondition :=
  .join .and (.compare .ge (.fragment "SUM(\"clicks\")") (.literal (.int 10)))
    (.not (.compare .gt (.fragment "SUM(\"clicks\")") (.column "site")))

theorem substituted_fewClicks : fewClicks.substituted clicksAlias = .ok fewCountedClicks := by
  have hclause : Clause.substitute clicksAlias clicksClause =
      .ok (.compare .gt (.fragment "SUM(\"clicks\")") (.column "site")) := by
    rw [Clause.substitute, parsed_clicksClause, ok_bind]
    rfl
  simp only [Condition.substituted, fewClicks, Predicate.substitute, hclause]
  rfl

theorem dependencies_fewClicks : fewClicks.dependencies = ["clicks", "site"] := by
  simp only [Condition.dependencies, fewClicks, Predicate.columns,
    Clause.columns_of_parsed parsed_clicksClause]
  decide

/-- The site is still read, the clicks are not. -/
theorem substituted_complete_fewClicks :
    (fewCountedClicks.widen : Condition).clauses = [] ∧
    fewCountedClicks.dependencies = ["site"] ∧
    Condition.substituted fewCountedClicks.widen clicksAlias = .ok fewCountedClicks ∧
    ∃ r, Condition.substituted fewCountedClicks.widen [] = .ok r ∧
      r.widen = (fewCountedClicks.widen : Condition) := by
  obtain ⟨hclauses, hdependencies, hagain⟩ :=
    (substituted_complete fewClicks clicksAlias).1 _ substituted_fewClicks
  rw [dependencies_fewClicks] at hdependencies
  exact ⟨hclauses, hdependencies.trans (by decide), hagain, (substituted_complete _ []).2 hclauses⟩

end Crosstab
