import Crosstab.Clause.Parser

/-!
# The grammar of clauses

The grammar is told as derivations: `Sum ts e` says that the lexemes `ts` derive from the rule for
sums and that the derivation denotes the tree `e`, and so on for the other rules.  A derivation
only sees what lexemes stand for, not where they stand in the text.  A chain of operators of one
strength is derived from its left end, so its tree leans to the left.

Three facts about derivable lexemes keep the two readings of a parenthesis apart.

* `Sum.balanced`, `Disjunction.balanced`: what derives has matching parentheses.
* `Balanced.eq_of_append`: a text with matching parentheses that a closing one follows is fixed by
  what it starts.
* `Sum.not_tests`, `Disjunction.tests`: a predicate has a lexeme that tests something, a sum has
  none.
-/

namespace Crosstab.Clause.Grammar

/-! ## Literals -/

/-- The cell that a lexeme denotes. -/
inductive Literal : LexemeKind → Cell → Prop where
  | string (s : String) : Literal (.string s) (.text s)
  | number (numeral : String) : Literal (.number numeral) (numberCell numeral false)
  | null : Literal (.keyword .null) .null
  | isTrue : Literal (.keyword .true) (.bool true)
  | isFalse : Literal (.keyword .false) (.bool false)

/-- A member of a list: a literal, or a number with a minus sign. -/
inductive Value : List LexemeKind → Cell → Prop where
  | negative (numeral : String) :
    Value [.sign .minus, .number numeral] (numberCell numeral true)
  | literal {k : LexemeKind} {c : Cell} : Literal k c → Value [k] c

/-- One or more members of a list, with commas between them. -/
inductive Values : List LexemeKind → List Cell → Prop where
  | one {ts : List LexemeKind} {c : Cell} : Value ts c → Values ts [c]
  | more {ts us : List LexemeKind} {c : Cell} {cs : List Cell} :
    Value ts c → Values us cs → Values (ts ++ .comma :: us) (c :: cs)

/-! ## Scalars -/

mutual

/-- Products joined with `+` and `-`. -/
inductive Sum : List LexemeKind → Scalar Empty → Prop where
  | product {ts e} : Product ts e → Sum ts e
  | add {ts us l r} : Sum ts l → Product us r → Sum (ts ++ .sign .plus :: us) (.binary .add l r)
  | sub {ts us l r} : Sum ts l → Product us r → Sum (ts ++ .sign .minus :: us) (.binary .sub l r)

/-- Factors joined with `*` and `/`. -/
inductive Product : List LexemeKind → Scalar Empty → Prop where
  | signed {ts e} : Signed ts e → Product ts e
  | mul {ts us l r} :
    Product ts l → Signed us r → Product (ts ++ .sign .star :: us) (.binary .mul l r)
  | div {ts us l r} :
    Product ts l → Signed us r → Product (ts ++ .sign .slash :: us) (.binary .div l r)

/-- A factor with its minus signs; one in front of a number belongs to the number. -/
inductive Signed : List LexemeKind → Scalar Empty → Prop where
  | negative (numeral : String) :
    Signed [.sign .minus, .number numeral] (.literal (numberCell numeral true))
  | minus {ts e} : Signed ts e → (∀ numeral, ts ≠ [.number numeral]) →
    Signed (.sign .minus :: ts) (.binary .sub (.literal (.int 0)) e)
  | atom {ts e} : Atom ts e → Signed ts e

/-- A name, a literal, or a sum in parentheses. -/
inductive Atom : List LexemeKind → Scalar Empty → Prop where
  | name (s : String) : Atom [.name s] (.column s)
  | literal {k c} : Literal k c → Atom [k] (.literal c)
  | parens {ts e} : Sum ts e → Atom (.leftParen :: ts ++ [.rightParen]) e

end

/-! ## Predicates -/

/-- What may follow the left operand of a comparison, or a `NOT` after it. -/
inductive Test (e : Scalar Empty) : List LexemeKind → PlainCondition → Prop where
  | between {ts us low high} : Sum ts (.literal low) → Sum us (.literal high) →
    Test e (.keyword .between :: ts ++ .keyword .and :: us) (.range e low high .both)
  | amongNone : Test e [.keyword .in, .leftParen, .rightParen] (.member e [])
  | among {ts cs} : Values ts cs →
    Test e (.keyword .in :: .leftParen :: ts ++ [.rightParen]) (.member e cs)
  | like {ts pattern} : Sum ts pattern →
    Test e (.keyword .like :: ts) (.like e pattern false false)
  | ilike {ts pattern} : Sum ts pattern →
    Test e (.keyword .ilike :: ts) (.like e pattern true false)

/-- A comparison between sums, or a test of a sum. -/
inductive Comparison : List LexemeKind → PlainCondition → Prop where
  | isNull {ts e} : Sum ts e → Comparison (ts ++ [.keyword .is, .keyword .null]) (.isNull e)
  | isNotNull {ts e} : Sum ts e →
    Comparison (ts ++ [.keyword .is, .keyword .not, .keyword .null]) (.not (.isNull e))
  | test {ts us e p} : Sum ts e → Test e us p → Comparison (ts ++ us) p
  | notTest {ts us e p} : Sum ts e → Test e us p →
    Comparison (ts ++ .keyword .not :: us) (.not p)
  | compare {ts us l r} {s : Sign} {op : Crosstab.Comparison} :
    Sum ts l → s.comparison? = some op → Sum us r →
    Comparison (ts ++ .sign s :: us) (.compare op l r)

mutual

/-- Conjunctions joined with `OR`. -/
inductive Disjunction : List LexemeKind → PlainCondition → Prop where
  | conjunction {ts p} : Conjunction ts p → Disjunction ts p
  | or {ts us p q} : Disjunction ts p → Conjunction us q →
    Disjunction (ts ++ .keyword .or :: us) (.join .or p q)

/-- Negations joined with `AND`. -/
inductive Conjunction : List LexemeKind → PlainCondition → Prop where
  | negation {ts p} : Negation ts p → Conjunction ts p
  | and {ts us p q} : Conjunction ts p → Negation us q →
    Conjunction (ts ++ .keyword .and :: us) (.join .and p q)

/-- A predicate with the `NOT`s in front of it. -/
inductive Negation : List LexemeKind → PlainCondition → Prop where
  | not {ts p} : Negation ts p → Negation (.keyword .not :: ts) (.not p)
  | group {ts p} : Group ts p → Negation ts p

/-- A disjunction in parentheses, or a comparison. -/
inductive Group : List LexemeKind → PlainCondition → Prop where
  | parens {ts p} : Disjunction ts p → Group (.leftParen :: ts ++ [.rightParen]) p
  | comparison {ts p} : Comparison ts p → Group ts p

end

variable {ts us : List LexemeKind} {e : Scalar Empty} {p : PlainCondition}

/-! ## Matching parentheses -/

/-- As many parentheses close as open, and none closes before it opens. -/
def Balanced (ts : List LexemeKind) : Prop :=
  ts.count .leftParen = ts.count .rightParen ∧
    ∀ n, (ts.take n).count .rightParen ≤ (ts.take n).count .leftParen

namespace Balanced

theorem of_forall_ne (h : ∀ k ∈ ts, k ≠ .leftParen ∧ k ≠ .rightParen) : Balanced ts := by
  have hl : ts.count .leftParen = 0 := List.count_eq_zero.2 fun hm => (h _ hm).1 rfl
  have hr : ts.count .rightParen = 0 := List.count_eq_zero.2 fun hm => (h _ hm).2 rfl
  refine ⟨by rw [hl, hr], ?_⟩
  intro n
  have hn : (ts.take n).count .rightParen = 0 :=
    List.count_eq_zero.2 fun hm => (h _ (List.mem_of_mem_take hm)).2 rfl
  omega

theorem append (ht : Balanced ts) (hu : Balanced us) : Balanced (ts ++ us) := by
  refine ⟨by rw [List.count_append, List.count_append, ht.1, hu.1], ?_⟩
  intro n
  have h1 := ht.2 n
  have h2 := hu.2 (n - ts.length)
  rw [List.take_append, List.count_append, List.count_append]
  omega

theorem cons {k : LexemeKind} (hl : k ≠ .leftParen) (hr : k ≠ .rightParen) (h : Balanced ts) :
    Balanced (k :: ts) := by
  have hk : Balanced [k] := of_forall_ne (by simp [hl, hr])
  exact hk.append h

theorem parens (h : Balanced ts) : Balanced (.leftParen :: ts ++ [.rightParen]) := by
  refine ⟨by simp [h.1], ?_⟩
  intro n
  cases n with
  | zero => simp
  | succ n =>
    have hn := h.2 n
    have h1 : ([LexemeKind.rightParen].take (n - ts.length)).count .rightParen ≤ 1 :=
      Nat.le_trans List.count_le_length (List.length_take_le' _ _)
    have h2 : ([LexemeKind.rightParen].take (n - ts.length)).count .leftParen = 0 :=
      List.count_eq_zero.2 fun hm => by simpa using List.mem_of_mem_take hm
    simp only [List.cons_append, List.take_succ_cons, List.take_append, List.count_cons,
      List.count_append, h2]
    simp
    omega

/-- What stands between an opening parenthesis and the closing one that belongs to it is fixed. -/
theorem eq_of_append {ts' us' : List LexemeKind} (ht : Balanced ts) (hu : Balanced us)
    (h : ts ++ .rightParen :: ts' = us ++ .rightParen :: us') : ts = us := by
  -- were one text longer, the parenthesis after the other one would close too early in it
  have key : ∀ {xs ys xs' ys' : List LexemeKind}, Balanced xs → Balanced ys →
      xs ++ .rightParen :: xs' = ys ++ .rightParen :: ys' → ¬ xs.length < ys.length := by
    intro xs ys xs' ys' hx hy heq hlt
    have htake : ys.take (xs.length + 1) = xs ++ [.rightParen] := by
      have := congrArg (List.take (xs.length + 1)) heq
      rw [List.take_append, List.take_append] at this
      simpa [List.take_of_length_le, Nat.sub_eq_zero_of_le hlt] using this.symm
    have hright : [LexemeKind.rightParen].count .rightParen = 1 := rfl
    have hleft : [LexemeKind.rightParen].count .leftParen = 0 := rfl
    have hcount := hy.2 (xs.length + 1)
    rw [htake, List.count_append, List.count_append, hx.1, hright, hleft] at hcount
    omega
  have hlen : ts.length = us.length := by
    have h1 := key ht hu h
    have h2 := key hu ht h.symm
    omega
  exact (List.append_inj h hlen).1

end Balanced

theorem Literal.ne_paren {k : LexemeKind} {c : Cell} (h : Literal k c) :
    k ≠ .leftParen ∧ k ≠ .rightParen := by
  cases h <;> exact ⟨by simp, by simp⟩

theorem Value.balanced {c : Cell} (h : Value ts c) : Balanced ts := by
  cases h with
  | negative numeral => exact .of_forall_ne (by simp)
  | literal hk => exact .of_forall_ne (by simpa using hk.ne_paren)

theorem Values.balanced {cs : List Cell} (h : Values ts cs) : Balanced ts := by
  induction h with
  | one h => exact h.balanced
  | more h _ ih => exact h.balanced.append (ih.cons (by simp) (by simp))

mutual

theorem Sum.balanced {ts e} : Sum ts e → Balanced ts
  | .product h => h.balanced
  | .add hl hr => hl.balanced.append (hr.balanced.cons (by simp) (by simp))
  | .sub hl hr => hl.balanced.append (hr.balanced.cons (by simp) (by simp))

theorem Product.balanced {ts e} : Product ts e → Balanced ts
  | .signed h => h.balanced
  | .mul hl hr => hl.balanced.append (hr.balanced.cons (by simp) (by simp))
  | .div hl hr => hl.balanced.append (hr.balanced.cons (by simp) (by simp))

theorem Signed.balanced {ts e} : Signed ts e → Balanced ts
  | .negative _ => .of_forall_ne (by simp)
  | .minus h _ => h.balanced.cons (by simp) (by simp)
  | .atom h => h.balanced

theorem Atom.balanced {ts e} : Atom ts e → Balanced ts
  | .name _ => .of_forall_ne (by simp)
  | .literal hk => .of_forall_ne (by simpa using hk.ne_paren)
  | .parens h => h.balanced.parens

end

theorem Test.balanced (h : Test e ts p) : Balanced ts := by
  cases h with
  | between hlow hhigh =>
    exact (hlow.balanced.cons (by simp) (by simp)).append
      (hhigh.balanced.cons (by simp) (by simp))
  | amongNone =>
    have h : Balanced [] := .of_forall_ne (by simp)
    exact h.parens.cons (by simp) (by simp)
  | among h => exact h.balanced.parens.cons (by simp) (by simp)
  | like h => exact h.balanced.cons (by simp) (by simp)
  | ilike h => exact h.balanced.cons (by simp) (by simp)

theorem Comparison.balanced (h : Comparison ts p) : Balanced ts := by
  cases h with
  | isNull h => exact h.balanced.append (.of_forall_ne (by simp))
  | isNotNull h => exact h.balanced.append (.of_forall_ne (by simp))
  | test h ht => exact h.balanced.append ht.balanced
  | notTest h ht => exact h.balanced.append (ht.balanced.cons (by simp) (by simp))
  | compare hl _ hr => exact hl.balanced.append (hr.balanced.cons (by simp) (by simp))

mutual

theorem Disjunction.balanced {ts p} : Disjunction ts p → Balanced ts
  | .conjunction h => h.balanced
  | .or hl hr => hl.balanced.append (hr.balanced.cons (by simp) (by simp))

theorem Conjunction.balanced {ts p} : Conjunction ts p → Balanced ts
  | .negation h => h.balanced
  | .and hl hr => hl.balanced.append (hr.balanced.cons (by simp) (by simp))

theorem Negation.balanced {ts p} : Negation ts p → Balanced ts
  | .not h => h.balanced.cons (by simp) (by simp)
  | .group h => h.balanced

theorem Group.balanced {ts p} : Group ts p → Balanced ts
  | .parens h => h.balanced.parens
  | .comparison h => h.balanced

end

/-! ## Lexemes that test -/

/-- Whether a lexeme tests scalars or negates a test. -/
def tests : LexemeKind → Bool
  | .keyword k => k = .is || k = .not || k = .between || k = .in || k = .like || k = .ilike
  | .sign s => s.comparison?.isSome
  | _ => false

theorem Literal.not_tests {k : LexemeKind} {c : Cell} (h : Literal k c) : tests k = false := by
  cases h <;> rfl

mutual

/-- A sum tests nothing. -/
theorem Sum.not_tests {ts e} : Sum ts e → ∀ k ∈ ts, tests k = false
  | .product h => h.not_tests
  | .add hl hr => by
    simpa [or_imp, forall_and] using ⟨hl.not_tests, rfl, hr.not_tests⟩
  | .sub hl hr => by
    simpa [or_imp, forall_and] using ⟨hl.not_tests, rfl, hr.not_tests⟩

theorem Product.not_tests {ts e} : Product ts e → ∀ k ∈ ts, tests k = false
  | .signed h => h.not_tests
  | .mul hl hr => by
    simpa [or_imp, forall_and] using ⟨hl.not_tests, rfl, hr.not_tests⟩
  | .div hl hr => by
    simpa [or_imp, forall_and] using ⟨hl.not_tests, rfl, hr.not_tests⟩

theorem Signed.not_tests {ts e} : Signed ts e → ∀ k ∈ ts, tests k = false
  | .negative _ => by simp [tests, Sign.comparison?]
  | .minus h _ => by
    simpa using ⟨rfl, h.not_tests⟩
  | .atom h => h.not_tests

theorem Atom.not_tests {ts e} : Atom ts e → ∀ k ∈ ts, tests k = false
  | .name _ => by simp [tests]
  | .literal hk => by simpa using hk.not_tests
  | .parens h => by
    simpa [or_imp, forall_and] using ⟨rfl, h.not_tests, rfl⟩

end

theorem Test.tests (h : Test e ts p) : ∃ k ∈ ts, tests k = true := by
  cases h with
  | between _ _ => exact ⟨.keyword .between, by simp, rfl⟩
  | amongNone => exact ⟨.keyword .in, by simp, rfl⟩
  | among _ => exact ⟨.keyword .in, by simp, rfl⟩
  | like _ => exact ⟨.keyword .like, by simp, rfl⟩
  | ilike _ => exact ⟨.keyword .ilike, by simp, rfl⟩

theorem Comparison.tests (h : Comparison ts p) : ∃ k ∈ ts, tests k = true := by
  cases h with
  | isNull _ => exact ⟨.keyword .is, by simp, rfl⟩
  | isNotNull _ => exact ⟨.keyword .is, by simp, rfl⟩
  | test _ ht =>
    obtain ⟨k, hk, hkt⟩ := ht.tests
    exact ⟨k, List.mem_append_right _ hk, hkt⟩
  | notTest _ ht =>
    obtain ⟨k, hk, hkt⟩ := ht.tests
    exact ⟨k, List.mem_append_right _ (List.mem_cons_of_mem _ hk), hkt⟩
  | @compare _ _ _ _ s op _ hs _ => exact ⟨.sign s, by simp, by simp [Grammar.tests, hs]⟩

mutual

/-- A predicate tests something. -/
theorem Disjunction.tests {ts p} : Disjunction ts p → ∃ k ∈ ts, tests k = true
  | .conjunction h => h.tests
  | .or hl _ => by
    obtain ⟨k, hk, hkt⟩ := hl.tests
    exact ⟨k, List.mem_append_left _ hk, hkt⟩

theorem Conjunction.tests {ts p} : Conjunction ts p → ∃ k ∈ ts, tests k = true
  | .negation h => h.tests
  | .and hl _ => by
    obtain ⟨k, hk, hkt⟩ := hl.tests
    exact ⟨k, List.mem_append_left _ hk, hkt⟩

theorem Negation.tests {ts p} : Negation ts p → ∃ k ∈ ts, tests k = true
  | .not h => by
    obtain ⟨k, hk, hkt⟩ := h.tests
    exact ⟨k, List.mem_cons_of_mem _ hk, hkt⟩
  | .group h => h.tests

theorem Group.tests {ts p} : Group ts p → ∃ k ∈ ts, tests k = true
  | .parens h => by
    obtain ⟨k, hk, hkt⟩ := h.tests
    exact ⟨k, by simp [hk], hkt⟩
  | .comparison h => h.tests

end

/-! ## The first parenthesis -/

mutual

theorem Sum.ne_nil {ts e} : Sum ts e → ts ≠ []
  | .product h => h.ne_nil
  | .add _ _ => by simp
  | .sub _ _ => by simp

theorem Product.ne_nil {ts e} : Product ts e → ts ≠ []
  | .signed h => h.ne_nil
  | .mul _ _ => by simp
  | .div _ _ => by simp

theorem Signed.ne_nil {ts e} : Signed ts e → ts ≠ []
  | .negative _ => by simp
  | .minus _ _ => by simp
  | .atom h => h.ne_nil

theorem Atom.ne_nil {ts e} : Atom ts e → ts ≠ []
  | .name _ => by simp
  | .literal _ => by simp
  | .parens _ => by simp

end

theorem head?_of_append {k : LexemeKind} (hne : ts ≠ []) (h : (ts ++ us).head? = some k) :
    ts.head? = some k := by
  cases ts with
  | nil => exact absurd rfl hne
  | cons _ _ => simpa using h

/-- The lexemes start with a sum in parentheses. -/
def OpensWithSum (ts : List LexemeKind) : Prop :=
  ∃ us inner tail, Sum us inner ∧ ts = .leftParen :: us ++ .rightParen :: tail

theorem OpensWithSum.append (h : OpensWithSum ts) (us : List LexemeKind) :
    OpensWithSum (ts ++ us) := by
  obtain ⟨vs, inner, tail, hsum, rfl⟩ := h
  exact ⟨vs, inner, tail ++ us, hsum, by simp⟩

mutual

/-- A sum that starts with a parenthesis starts with a sum in parentheses. -/
theorem Sum.opensWithSum {ts e} (h : Sum ts e) (hts : ts.head? = some .leftParen) :
    OpensWithSum ts :=
  match h with
  | .product h => h.opensWithSum hts
  | .add hl _ => (hl.opensWithSum (head?_of_append hl.ne_nil hts)).append _
  | .sub hl _ => (hl.opensWithSum (head?_of_append hl.ne_nil hts)).append _

theorem Product.opensWithSum {ts e} (h : Product ts e) (hts : ts.head? = some .leftParen) :
    OpensWithSum ts :=
  match h with
  | .signed h => h.opensWithSum hts
  | .mul hl _ => (hl.opensWithSum (head?_of_append hl.ne_nil hts)).append _
  | .div hl _ => (hl.opensWithSum (head?_of_append hl.ne_nil hts)).append _

theorem Signed.opensWithSum {ts e} (h : Signed ts e) (hts : ts.head? = some .leftParen) :
    OpensWithSum ts :=
  match h with
  | .negative _ => by simp at hts
  | .minus _ _ => by simp at hts
  | .atom h => h.opensWithSum hts

theorem Atom.opensWithSum {ts e} (h : Atom ts e) (hts : ts.head? = some .leftParen) :
    OpensWithSum ts :=
  match h with
  | .name _ => by simp at hts
  | .literal hk => by
    have := hk.ne_paren.1
    simp_all
  | .parens h => ⟨_, _, [], h, rfl⟩

end

/-- A comparison starts with its left operand. -/
theorem Comparison.exists_sum (h : Comparison ts p) :
    ∃ us l tail, Sum us l ∧ ts = us ++ tail := by
  cases h with
  | isNull h => exact ⟨_, _, _, h, rfl⟩
  | isNotNull h => exact ⟨_, _, _, h, rfl⟩
  | test h _ => exact ⟨_, _, _, h, rfl⟩
  | notTest h _ => exact ⟨_, _, _, h, rfl⟩
  | compare h _ _ => exact ⟨_, _, _, h, rfl⟩

theorem Comparison.opensWithSum (h : Comparison ts p) (hts : ts.head? = some .leftParen) :
    OpensWithSum ts := by
  obtain ⟨us, l, tail, hl, rfl⟩ := h.exists_sum
  exact (hl.opensWithSum (head?_of_append hl.ne_nil hts)).append tail

theorem Conjunction.ne_nil (h : Conjunction ts p) : ts ≠ [] := by
  obtain ⟨k, hk, -⟩ := h.tests
  exact List.ne_nil_of_mem hk

theorem Negation.ne_nil (h : Negation ts p) : ts ≠ [] := by
  obtain ⟨k, hk, -⟩ := h.tests
  exact List.ne_nil_of_mem hk

/-- Only negations start with `NOT`. -/
theorem Group.head_ne_not (h : Group ts p) : ts.head? ≠ some (.keyword .not) := by
  cases h with
  | parens _ => simp
  | comparison h =>
    obtain ⟨us, l, tail, hl, rfl⟩ := h.exists_sum
    intro hhead
    have hmem := List.mem_of_mem_head? (head?_of_append hl.ne_nil hhead)
    exact absurd (hl.not_tests _ hmem) (by simp [Grammar.tests])

/-- **A parenthesis has one reading.**  Lexemes that start with a predicate in parentheses are no
comparison: the parenthesis of a comparison holds a sum, which would be the same lexemes. -/
theorem Comparison.not_parens_disjunction {q : PlainCondition} {ws tail : List LexemeKind}
    (h : Comparison ts p) (hq : Disjunction us q)
    (hts : ts ++ ws = .leftParen :: us ++ .rightParen :: tail) : False := by
  have hhead : ts.head? = some .leftParen := by
    obtain ⟨vs, l, more, hl, rfl⟩ := h.exists_sum
    exact head?_of_append (by simp [hl.ne_nil]) (congrArg List.head? hts)
  obtain ⟨vs, inner, rest, hsum, rfl⟩ := h.opensWithSum hhead
  have heq : vs ++ .rightParen :: (rest ++ ws) = us ++ .rightParen :: tail := by simpa using hts
  have hvs : vs = us := hsum.balanced.eq_of_append hq.balanced heq
  subst hvs
  obtain ⟨k, hk, hkt⟩ := hq.tests
  rw [hsum.not_tests k hk] at hkt
  exact absurd hkt (by simp)

end Crosstab.Clause.Grammar
