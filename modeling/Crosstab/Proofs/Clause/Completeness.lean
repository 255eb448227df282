import Crosstab.Proofs.Clause.Soundness

/-!
# What derives is read

Lexemes that derive from a rule of the grammar are read as the tree that the derivation denotes,
whatever follows them, as long as it cannot continue them: `Grammar.Sum.reads` for scalars and
`Grammar.Disjunction.reads` for predicates.

* A derivation of a chain of operators grows at its right end and a reader walks it from the left.
  The two meet in an equation: reading a chain is the same as going on with its tree as the left
  operand (`Grammar.Sum.loops` and its like).
* A reader may go ten calls deep for each lexeme that it takes, and a few more.
* A parenthesis is read as a predicate first.  Where a sum is meant that attempt fails, since no
  lexemes are both (`Grammar.Comparison.not_parens_disjunction`).

`predicateOf_eq_ok_iff_derives` puts both directions together: the text of a clause reads as a
predicate exactly if its lexemes derive from the rule for disjunctions with that predicate.
-/

namespace Crosstab.Clause

variable {stop n m : Nat} {taken rest : List Lexeme} {ts us : List LexemeKind}

/-! ## What may follow -/

/-- The first lexeme, if there is one, is none of some kinds. -/
def NotNext (ks : List LexemeKind) (rest : List Lexeme) : Prop := ∀ l ∈ rest.head?, l.kind ∉ ks

/-- The operators that continue a product. -/
def factorSigns : List LexemeKind := [.sign .star, .sign .slash]

/-- The operators that continue a sum. -/
def termSigns : List LexemeKind := .sign .plus :: .sign .minus :: factorSigns

/-- What continues a conjunction. -/
def conjunctionSigns : List LexemeKind := .keyword .and :: termSigns

/-- What continues a disjunction. -/
def disjunctionSigns : List LexemeKind := .keyword .or :: conjunctionSigns

theorem NotNext.mono {ks ks' : List LexemeKind} (h : NotNext ks' rest) (hsub : ks ⊆ ks') :
    NotNext ks rest :=
  fun l hl hk => h l hl (hsub hk)

theorem notNext_cons {ks : List LexemeKind} {l : Lexeme} (h : l.kind ∉ ks) :
    NotNext ks (l :: rest) := by
  intro m hm
  cases hm
  exact h

/-- Lexemes of which one is known fall apart at that one. -/
theorem kinds_eq_append_cons {k : LexemeKind} (h : kinds taken = ts ++ k :: us) :
    ∃ before l after, taken = before ++ l :: after ∧ kinds before = ts ∧ l.kind = k ∧
      kinds after = us := by
  obtain ⟨before, tail, rfl, hb, ht⟩ := List.map_eq_append_iff.1 h
  obtain ⟨l, after, rfl, hl, ha⟩ := List.map_eq_cons_iff.1 ht
  exact ⟨before, l, after, rfl, hb, hl, ha⟩

theorem kinds_eq_cons {k : LexemeKind} (h : kinds taken = k :: us) :
    ∃ l after, taken = l :: after ∧ l.kind = k ∧ kinds after = us := by
  obtain ⟨l, after, rfl, hl, ha⟩ := List.map_eq_cons_iff.1 h
  exact ⟨l, after, rfl, hl, ha⟩

theorem skip?_cons_of_kind {k : LexemeKind} {l : Lexeme} (h : l.kind = k) :
    skip? k (l :: rest) = some rest :=
  skip?_eq_some_iff.2 ⟨l, h, rfl⟩

theorem expect_cons_of_kind {k : LexemeKind} {fault : ClauseFault} {l : Lexeme} (h : l.kind = k) :
    expect stop k fault (l :: rest) = .ok rest :=
  expect_eq_ok_iff.2 ⟨l, h, rfl⟩

theorem skip?_eq_none {k : LexemeKind} (h : NotNext [k] rest) : skip? k rest = none := by
  cases rest with
  | nil => rfl
  | cons l rest =>
    have hl : l.kind ≠ k := by simpa using h l rfl
    simp [skip?, hl]

/-! ## Loops that end -/

/-- A reader that comes to its loop with some depth left has the answer of the loop. -/
theorem eq_of_loops {α : Type} {k : Nat} {read done : α} {loop : Nat → α}
    (h : ∃ m, n ≤ m + k ∧ read = loop m) (hn : k < n) (hloop : ∀ m, 1 ≤ m → loop m = done) :
    read = done := by
  obtain ⟨m, hm, heq⟩ := h
  rw [heq, hloop m (by omega)]

theorem sumRest_of_notNext {e : Scalar Empty} (hn : 1 ≤ n) (h : NotNext termSigns rest) :
    sumRest stop n e rest = .ok (e, rest) := by
  obtain ⟨m, rfl⟩ : ∃ m, n = m + 1 := ⟨n - 1, by omega⟩
  unfold sumRest
  split
  · exact absurd (h _ rfl) (by simp [termSigns])
  · exact absurd (h _ rfl) (by simp [termSigns])
  · rfl

theorem productRest_of_notNext {e : Scalar Empty} (hn : 1 ≤ n) (h : NotNext factorSigns rest) :
    productRest stop n e rest = .ok (e, rest) := by
  obtain ⟨m, rfl⟩ : ∃ m, n = m + 1 := ⟨n - 1, by omega⟩
  unfold productRest
  split
  · exact absurd (h _ rfl) (by simp [factorSigns])
  · exact absurd (h _ rfl) (by simp [factorSigns])
  · rfl

/-! ## One round of a loop -/

theorem sumRest_plus {e : Scalar Empty} {l : Lexeme} (h : l.kind = .sign .plus) :
    sumRest stop (n + 1) e (l :: rest) =
      (product stop n rest >>= fun x => sumRest stop n (.binary .add e x.1) x.2) := by
  obtain ⟨k, start, stopAt, source⟩ := l
  subst h
  rfl

theorem sumRest_minus {e : Scalar Empty} {l : Lexeme} (h : l.kind = .sign .minus) :
    sumRest stop (n + 1) e (l :: rest) =
      (product stop n rest >>= fun x => sumRest stop n (.binary .sub e x.1) x.2) := by
  obtain ⟨k, start, stopAt, source⟩ := l
  subst h
  rfl

theorem productRest_star {e : Scalar Empty} {l : Lexeme} (h : l.kind = .sign .star) :
    productRest stop (n + 1) e (l :: rest) =
      (signed stop n rest >>= fun x => productRest stop n (.binary .mul e x.1) x.2) := by
  obtain ⟨k, start, stopAt, source⟩ := l
  subst h
  rfl

theorem productRest_slash {e : Scalar Empty} {l : Lexeme} (h : l.kind = .sign .slash) :
    productRest stop (n + 1) e (l :: rest) =
      (signed stop n rest >>= fun x => productRest stop n (.binary .div e x.1) x.2) := by
  obtain ⟨k, start, stopAt, source⟩ := l
  subst h
  rfl

/-! ## Scalars -/

theorem atom_of_literal {l : Lexeme} {c : Cell} (hn : 1 ≤ n) (h : Grammar.Literal l.kind c) :
    atom stop n (l :: rest) = .ok (.literal c, rest) := by
  obtain ⟨m, rfl⟩ : ∃ m, n = m + 1 := ⟨n - 1, by omega⟩
  have hl := literal?_eq_some_iff.2 h
  simp only [atom]
  split
  · rename_i hk
    rw [hk] at h
    cases h
  · rename_i hk
    rw [hk] at h
    cases h
  · rw [hl]

/-- A factor that starts with no minus sign is an atom. -/
theorem signed_of_head {l : Lexeme} (h : l.kind ≠ .sign .minus) :
    signed stop (n + 1) (l :: rest) = atom stop n (l :: rest) := by
  unfold signed
  split
  · rename_i heq
    cases heq
    exact absurd rfl h
  · rename_i heq
    cases heq
    exact absurd rfl h
  · rfl

/-- A minus sign in front of anything but a number subtracts from zero. -/
theorem signed_minus {l : Lexeme} (h : l.kind = .sign .minus)
    (hnumber : ∀ k ∈ (kinds rest).head?, ∀ numeral, k ≠ .number numeral) :
    signed stop (n + 1) (l :: rest) =
      (signed stop n rest >>= fun x => pure (.binary .sub (.literal (.int 0)) x.1, x.2)) := by
  conv => lhs; unfold signed
  split
  · rename_i heq
    cases heq
    exact absurd rfl (hnumber _ rfl _)
  · rename_i heq
    cases heq
    rfl
  · rename_i hminus
    obtain ⟨k, start, stopAt, source⟩ := l
    subst h
    exact absurd rfl (hminus _ _ _ _)

namespace Grammar

/-- A factor that starts with a number is that number. -/
theorem Signed.eq_of_head_number {e : Scalar Empty} {numeral : String} (h : Signed ts e)
    (hts : ts.head? = some (.number numeral)) : ts = [.number numeral] := by
  cases h with
  | negative _ => simp at hts
  | minus _ _ => simp at hts
  | atom h =>
    cases h with
    | name _ => simp at hts
    | literal _ => simpa using hts
    | parens _ => simp at hts

theorem Atom.head_ne_minus {e : Scalar Empty} (h : Atom ts e) :
    ∀ k ∈ ts.head?, k ≠ .sign .minus := by
  cases h with
  | name _ => simp
  | literal hk => cases hk <;> simp
  | parens _ => simp

mutual

/-- Reading a sum is going on with its tree as the left operand. -/
theorem Sum.loops {ts e} (h : Sum ts e) (stop n : Nat) (rest : List Lexeme)
    {taken : List Lexeme} (htaken : kinds taken = ts) (hn : 10 * ts.length + 4 ≤ n)
    (hrest : NotNext factorSigns rest) :
    ∃ m, n ≤ m + 10 * ts.length ∧ sum stop n (taken ++ rest) = sumRest stop m e rest :=
  match h with
  | .product h => by
    obtain ⟨m, rfl⟩ : ∃ m, n = m + 1 := ⟨n - 1, by omega⟩
    have hpos := List.length_pos_iff.2 h.ne_nil
    have hread := eq_of_loops (h.loops stop m rest htaken (by omega)) (by omega)
      fun _ hm => productRest_of_notNext hm hrest
    exact ⟨m, by omega, by simp only [sum, hread, ok_bind]⟩
  | .add hl hr => by
    obtain ⟨before, l, after, rfl, hb, hplus, ha⟩ := kinds_eq_append_cons htaken
    simp only [List.length_append, List.length_cons] at hn ⊢
    obtain ⟨m, hm, heq⟩ := hl.loops stop n (l :: after ++ rest) hb (by omega)
      (notNext_cons (by simp [hplus, factorSigns]))
    obtain ⟨m, rfl⟩ : ∃ k, m = k + 1 := ⟨m - 1, by omega⟩
    have hread := eq_of_loops (hr.loops stop m rest ha (by omega)) (by omega)
      fun _ hm => productRest_of_notNext hm hrest
    refine ⟨m, by omega, ?_⟩
    rw [List.append_assoc, heq, List.cons_append, sumRest_plus hplus, hread, ok_bind]
  | .sub hl hr => by
    obtain ⟨before, l, after, rfl, hb, hminus, ha⟩ := kinds_eq_append_cons htaken
    simp only [List.length_append, List.length_cons] at hn ⊢
    obtain ⟨m, hm, heq⟩ := hl.loops stop n (l :: after ++ rest) hb (by omega)
      (notNext_cons (by simp [hminus, factorSigns]))
    obtain ⟨m, rfl⟩ : ∃ k, m = k + 1 := ⟨m - 1, by omega⟩
    have hread := eq_of_loops (hr.loops stop m rest ha (by omega)) (by omega)
      fun _ hm => productRest_of_notNext hm hrest
    refine ⟨m, by omega, ?_⟩
    rw [List.append_assoc, heq, List.cons_append, sumRest_minus hminus, hread, ok_bind]

theorem Product.loops {ts e} (h : Product ts e) (stop n : Nat) (rest : List Lexeme)
    {taken : List Lexeme} (htaken : kinds taken = ts) (hn : 10 * ts.length + 3 ≤ n) :
    ∃ m, n ≤ m + 10 * ts.length ∧ product stop n (taken ++ rest) = productRest stop m e rest :=
  match h with
  | .signed h => by
    obtain ⟨m, rfl⟩ : ∃ m, n = m + 1 := ⟨n - 1, by omega⟩
    have hpos := List.length_pos_iff.2 h.ne_nil
    have hread := h.reads stop m rest htaken (by omega)
    exact ⟨m, by omega, by simp only [product, hread, ok_bind]⟩
  | .mul hl hr => by
    obtain ⟨before, l, after, rfl, hb, hstar, ha⟩ := kinds_eq_append_cons htaken
    simp only [List.length_append, List.length_cons] at hn ⊢
    obtain ⟨m, hm, heq⟩ := hl.loops stop n (l :: after ++ rest) hb (by omega)
    obtain ⟨m, rfl⟩ : ∃ k, m = k + 1 := ⟨m - 1, by omega⟩
    have hread := hr.reads stop m rest ha (by omega)
    refine ⟨m, by omega, ?_⟩
    rw [List.append_assoc, heq, List.cons_append, productRest_star hstar, hread, ok_bind]
  | .div hl hr => by
    obtain ⟨before, l, after, rfl, hb, hslash, ha⟩ := kinds_eq_append_cons htaken
    simp only [List.length_append, List.length_cons] at hn ⊢
    obtain ⟨m, hm, heq⟩ := hl.loops stop n (l :: after ++ rest) hb (by omega)
    obtain ⟨m, rfl⟩ : ∃ k, m = k + 1 := ⟨m - 1, by omega⟩
    have hread := hr.reads stop m rest ha (by omega)
    refine ⟨m, by omega, ?_⟩
    rw [List.append_assoc, heq, List.cons_append, productRest_slash hslash, hread, ok_bind]

theorem Signed.reads {ts e} (h : Signed ts e) (stop n : Nat) (rest : List Lexeme)
    {taken : List Lexeme} (htaken : kinds taken = ts) (hn : 10 * ts.length + 2 ≤ n) :
    signed stop n (taken ++ rest) = .ok (e, rest) :=
  match h with
  | .negative numeral => by
    obtain ⟨m, rfl⟩ : ∃ m, n = m + 1 := ⟨n - 1, by omega⟩
    obtain ⟨⟨_, _, _, _⟩, tail, rfl, rfl, ht⟩ := kinds_eq_cons htaken
    obtain ⟨⟨_, _, _, _⟩, tail, rfl, rfl, hnil⟩ := kinds_eq_cons ht
    obtain rfl := List.map_eq_nil_iff.1 hnil
    rfl
  | @Signed.minus us e h hnumber => by
    obtain ⟨m, rfl⟩ : ∃ m, n = m + 1 := ⟨n - 1, by omega⟩
    obtain ⟨l, tail, rfl, hl, ht⟩ := kinds_eq_cons htaken
    simp only [List.length_cons] at hn
    have hread := h.reads stop m rest ht (by omega)
    have hhead : ∀ k ∈ (kinds (tail ++ rest)).head?, ∀ numeral, k ≠ .number numeral := by
      rintro k hk numeral rfl
      rw [kinds_append, ht, Option.mem_def] at hk
      have hus : us.head? = some (.number numeral) := by
        cases us with
        | nil => exact absurd rfl h.ne_nil
        | cons _ _ => simpa using hk
      exact hnumber numeral (h.eq_of_head_number hus)
    rw [List.cons_append, signed_minus hl hhead, hread]
    rfl
  | .atom h => by
    obtain ⟨m, rfl⟩ : ∃ m, n = m + 1 := ⟨n - 1, by omega⟩
    have hread := h.reads stop m rest htaken (by omega)
    cases taken with
    | nil => exact absurd htaken.symm h.ne_nil
    | cons l tail =>
      have hl : l.kind ≠ .sign .minus := h.head_ne_minus _ (by rw [← htaken]; rfl)
      rw [List.cons_append, signed_of_head hl]
      exact hread

theorem Atom.reads {ts e} (h : Atom ts e) (stop n : Nat) (rest : List Lexeme)
    {taken : List Lexeme} (htaken : kinds taken = ts) (hn : 10 * ts.length + 1 ≤ n) :
    atom stop n (taken ++ rest) = .ok (e, rest) :=
  match h with
  | .name s => by
    obtain ⟨m, rfl⟩ : ∃ m, n = m + 1 := ⟨n - 1, by omega⟩
    obtain ⟨l, tail, rfl, hl, ht⟩ := kinds_eq_cons htaken
    obtain rfl := List.map_eq_nil_iff.1 ht
    simp [atom, hl]
  | .literal hk => by
    obtain ⟨l, tail, rfl, rfl, ht⟩ := kinds_eq_cons htaken
    obtain rfl := List.map_eq_nil_iff.1 ht
    exact atom_of_literal (by omega) hk
  | .parens h => by
    obtain ⟨m, rfl⟩ : ∃ m, n = m + 1 := ⟨n - 1, by omega⟩
    obtain ⟨l, tail, rfl, hl, ht⟩ := kinds_eq_cons htaken
    obtain ⟨inner, close, last, rfl, hi, hc, hlast⟩ := kinds_eq_append_cons ht
    obtain rfl := List.map_eq_nil_iff.1 hlast
    simp only [List.cons_append, List.length_cons, List.length_append, List.length_nil] at hn
    have hfactor : NotNext factorSigns (close :: rest) := notNext_cons (by simp [hc, factorSigns])
    have hterm : NotNext termSigns (close :: rest) :=
      notNext_cons (by simp [hc, termSigns, factorSigns])
    have hread := eq_of_loops (h.loops stop m (close :: rest) hi (by omega) hfactor) (by omega)
      fun _ hm => sumRest_of_notNext hm hterm
    simp [atom, hl, hread, expect_cons_of_kind hc, pure, Except.pure]

end

variable {e : Scalar Empty} {p : PlainCondition}

theorem Sum.reads (h : Sum ts e) (stop n : Nat) (rest : List Lexeme) (htaken : kinds taken = ts)
    (hn : 10 * ts.length + 4 ≤ n)
    (hrest : NotNext termSigns rest) : sum stop n (taken ++ rest) = .ok (e, rest) :=
  eq_of_loops (h.loops stop n rest htaken hn (hrest.mono (by simp [termSigns]))) (by omega)
    fun _ hm => sumRest_of_notNext hm hrest

/-! ## Ranges and lists -/

theorem Sum.readsBound {c : Cell} (h : Sum ts (.literal c)) (stop n : Nat) (rest : List Lexeme)
    (htaken : kinds taken = ts) (hn : 10 * ts.length + 4 ≤ n) (hrest : NotNext termSigns rest) :
    bound stop n (taken ++ rest) = .ok (c, rest) := by
  simp only [bound, h.reads stop n rest htaken hn hrest, ok_bind]
  rfl

theorem Value.reads {c : Cell} (h : Value ts c) (htaken : kinds taken = ts) :
    member stop (taken ++ rest) = .ok (c, rest) := by
  cases h with
  | negative numeral =>
    obtain ⟨⟨_, _, _, _⟩, tail, rfl, rfl, ht⟩ := kinds_eq_cons htaken
    obtain ⟨⟨_, _, _, _⟩, tail, rfl, rfl, hnil⟩ := kinds_eq_cons ht
    obtain rfl := List.map_eq_nil_iff.1 hnil
    rfl
  | literal hk =>
    obtain ⟨l, tail, rfl, rfl, ht⟩ := kinds_eq_cons htaken
    obtain rfl := List.map_eq_nil_iff.1 ht
    rw [List.cons_append, List.nil_append]
    unfold member
    split
    · rename_i heq
      cases heq
      cases hk
    · rename_i heq
      cases heq
      rw [literal?_eq_some_iff.2 hk]
    · rename_i heq
      cases heq

theorem Values.notNext_paren {cs : List Cell} (h : Values ts cs) (htaken : kinds taken = ts) :
    NotNext [.rightParen] (taken ++ rest) := by
  have key : ∀ {us vs : List LexemeKind} {c : Cell}, Value us c → kinds taken = us ++ vs →
      NotNext [.rightParen] (taken ++ rest) := by
    intro us vs c hv heq
    cases hv with
    | negative _ =>
      obtain ⟨l, tail, rfl, hl, -⟩ := kinds_eq_cons heq
      exact notNext_cons (by simp [hl])
    | literal hk =>
      obtain ⟨l, tail, rfl, rfl, -⟩ := kinds_eq_cons heq
      exact notNext_cons (by simp [hk.ne_paren.2])
  cases h with
  | one h => exact key h (by rw [htaken, List.append_nil])
  | more h _ => exact key h htaken

theorem Values.reads {cs : List Cell} (h : Values ts cs) {n : Nat} {taken : List Lexeme}
    {close : Lexeme} (htaken : kinds taken = ts) (hn : ts.length + 1 ≤ n)
    (hclose : close.kind = .rightParen) :
    members stop n (taken ++ close :: rest) = .ok (cs, rest) := by
  induction h generalizing n taken with
  | one h =>
    obtain ⟨m, rfl⟩ : ∃ m, n = m + 1 := ⟨n - 1, by omega⟩
    have hskip : skip? .comma (close :: rest) = none :=
      skip?_eq_none (notNext_cons (by simp [hclose]))
    simp only [members, h.reads htaken, ok_bind, hskip, expect_cons_of_kind hclose]
    rfl
  | more h _ ih =>
    obtain ⟨m, rfl⟩ : ∃ m, n = m + 1 := ⟨n - 1, by omega⟩
    obtain ⟨before, l, after, rfl, hb, hcomma, ha⟩ := kinds_eq_append_cons htaken
    simp only [List.length_append, List.length_cons] at hn
    have hvalue : member stop (before ++ l :: (after ++ close :: rest)) = .ok (_, _) := h.reads hb
    have hvalues := ih (n := m) ha (by omega)
    rw [List.append_assoc, List.cons_append]
    simp only [members, hvalue, ok_bind, skip?_cons_of_kind hcomma, hvalues]
    rfl

/-! ## Comparisons -/

theorem Test.head (h : Test e ts p) : ∃ k us, ts = .keyword k :: us ∧ takesNot k = true := by
  cases h <;> exact ⟨_, _, rfl, rfl⟩

theorem Test.reads (h : Test e ts p) (stop n : Nat) (rest : List Lexeme)
    (htaken : kinds taken = ts) (hn : 10 * ts.length + 5 ≤ n)
    (hrest : NotNext termSigns rest) :
    relation stop n e (taken ++ rest) = .ok (p, rest) := by
  cases h with
  | between hlow hhigh =>
    obtain ⟨⟨_, _, _, _⟩, tail, rfl, rfl, ht⟩ := kinds_eq_cons htaken
    obtain ⟨before, l, after, rfl, hb, hand, ha⟩ := kinds_eq_append_cons ht
    simp only [List.length_append, List.length_cons] at hn
    have h1 := hlow.readsBound stop n (l :: (after ++ rest)) hb (by omega)
      (notNext_cons (by simp [hand, termSigns, factorSigns]))
    have h2 := hhigh.readsBound stop n rest ha (by omega) hrest
    rw [List.cons_append, List.append_assoc, List.cons_append]
    simp only [relation, range, h1, ok_bind, expect_cons_of_kind hand, h2]
    rfl
  | amongNone =>
    obtain ⟨⟨_, _, _, _⟩, tail, rfl, rfl, ht⟩ := kinds_eq_cons htaken
    obtain ⟨l, tail, rfl, hopen, ht⟩ := kinds_eq_cons ht
    obtain ⟨m, tail, rfl, hclose, hnil⟩ := kinds_eq_cons ht
    obtain rfl := List.map_eq_nil_iff.1 hnil
    simp only [List.cons_append, List.nil_append, relation, list, expect_cons_of_kind hopen,
      ok_bind, skip?_cons_of_kind hclose]
    rfl
  | among h =>
    obtain ⟨⟨_, _, _, _⟩, tail, rfl, rfl, ht⟩ := kinds_eq_cons htaken
    obtain ⟨l, tail, rfl, hopen, ht⟩ := kinds_eq_cons ht
    obtain ⟨before, close, last, rfl, hb, hclose, hnil⟩ := kinds_eq_append_cons ht
    obtain rfl := List.map_eq_nil_iff.1 hnil
    simp only [List.length_append, List.length_cons] at hn
    have hread : members stop n (before ++ close :: rest) = .ok (_, rest) :=
      h.reads hb (by omega) hclose
    have hskip : skip? .rightParen (before ++ close :: rest) = none :=
      skip?_eq_none (h.notNext_paren hb)
    rw [List.cons_append, List.cons_append, List.append_assoc, List.cons_append, List.nil_append]
    simp only [relation, list, expect_cons_of_kind hopen, ok_bind, hskip, hread]
    rfl
  | like h =>
    obtain ⟨⟨_, _, _, _⟩, tail, rfl, rfl, ht⟩ := kinds_eq_cons htaken
    simp only [List.length_cons] at hn
    have hread := h.reads stop n rest ht (by omega) hrest
    simp only [List.cons_append, relation, hread, ok_bind]
    rfl
  | ilike h =>
    obtain ⟨⟨_, _, _, _⟩, tail, rfl, rfl, ht⟩ := kinds_eq_cons htaken
    simp only [List.length_cons] at hn
    have hread := h.reads stop n rest ht (by omega) hrest
    simp only [List.cons_append, relation, hread, ok_bind]
    rfl

/-- Where neither `IS` nor `NOT` follows the left operand, an operator or a test does. -/
theorem comparison_of_sum {ls mid : List Lexeme} (hsum : sum stop n ls = .ok (e, mid))
    (hmid : NotNext [.keyword .is, .keyword .not] mid) :
    comparison stop n ls = relation stop n e mid := by
  simp only [comparison, hsum, ok_bind]
  split
  · exact absurd (hmid _ rfl) (by simp)
  · exact absurd (hmid _ rfl) (by simp)
  · rfl

theorem comparison_of_sum_is {ls mid : List Lexeme} {l : Lexeme} (hl : l.kind = .keyword .is)
    (hsum : sum stop n ls = .ok (e, l :: mid)) :
    comparison stop n ls = nullTest stop e mid := by
  obtain ⟨k, start, stopAt, source⟩ := l
  subst hl
  simp only [comparison, hsum, ok_bind]

theorem comparison_of_sum_not {ls mid : List Lexeme} {l m : Lexeme} {k : Keyword}
    (hl : l.kind = .keyword .not) (hm : m.kind = .keyword k) (hk : takesNot k = true)
    (hsum : sum stop n ls = .ok (e, l :: m :: mid)) :
    comparison stop n ls =
      (relation stop n e (m :: mid) >>= fun x => pure (.not x.1, x.2)) := by
  obtain ⟨k, start, stopAt, source⟩ := l
  obtain ⟨k', start', stopAt', source'⟩ := m
  subst hl hm
  simp only [comparison, hsum, ok_bind, hk, if_true]

theorem not_mem_termSigns {s : Sign} {op : Crosstab.Comparison} (h : s.comparison? = some op) :
    .sign s ∉ termSigns := by
  cases s <;> simp_all [Sign.comparison?, termSigns, factorSigns]

theorem relation_of_sign {l : Lexeme} {s : Sign} {op : Crosstab.Comparison} (hl : l.kind = .sign s)
    (hop : s.comparison? = some op) :
    relation stop n e (l :: rest) =
      (sum stop n rest >>= fun x => pure (.compare op e x.1, x.2)) := by
  obtain ⟨k, start, stopAt, source⟩ := l
  subst hl
  simp only [relation, hop]

theorem Comparison.reads (h : Comparison ts p) (stop n : Nat) (rest : List Lexeme)
    (htaken : kinds taken = ts)
    (hn : 10 * ts.length + 5 ≤ n) (hrest : NotNext termSigns rest) :
    comparison stop n (taken ++ rest) = .ok (p, rest) := by
  cases h with
  | isNull h =>
    obtain ⟨before, l, tail, rfl, hb, his, ht⟩ := kinds_eq_append_cons htaken
    obtain ⟨m, tail, rfl, hnull, hnil⟩ := kinds_eq_cons ht
    obtain rfl := List.map_eq_nil_iff.1 hnil
    simp only [List.length_append, List.length_cons] at hn
    have hsum := h.reads stop n (l :: m :: rest) hb (by omega)
      (notNext_cons (by simp [his, termSigns, factorSigns]))
    have hskip : skip? (.keyword .not) (m :: rest) = none :=
      skip?_eq_none (notNext_cons (by simp [hnull]))
    rw [List.append_assoc, List.cons_append, List.cons_append, List.nil_append,
      comparison_of_sum_is his hsum]
    simp only [nullTest, hskip, expect_cons_of_kind hnull, ok_bind]
    rfl
  | isNotNull h =>
    obtain ⟨before, l, tail, rfl, hb, his, ht⟩ := kinds_eq_append_cons htaken
    obtain ⟨k, tail, rfl, hnot, ht⟩ := kinds_eq_cons ht
    obtain ⟨m, tail, rfl, hnull, hnil⟩ := kinds_eq_cons ht
    obtain rfl := List.map_eq_nil_iff.1 hnil
    simp only [List.length_append, List.length_cons] at hn
    have hsum := h.reads stop n (l :: k :: m :: rest) hb (by omega)
      (notNext_cons (by simp [his, termSigns, factorSigns]))
    rw [List.append_assoc, List.cons_append, List.cons_append, List.cons_append, List.nil_append,
      comparison_of_sum_is his hsum]
    simp only [nullTest, skip?_cons_of_kind hnot, expect_cons_of_kind hnull, ok_bind]
    rfl
  | test h ht =>
    obtain ⟨before, tail, rfl, hb, htail⟩ := List.map_eq_append_iff.1 htaken
    obtain ⟨k, us, rfl, hk⟩ := ht.head
    obtain ⟨l, after, rfl, hl, -⟩ := kinds_eq_cons htail
    simp only [List.length_append, List.length_cons] at hn
    have hsum := h.reads stop n (l :: after ++ rest) hb (by omega)
      (notNext_cons (by simp [hl, termSigns, factorSigns]))
    have hmid : NotNext [.keyword .is, .keyword .not] (l :: after ++ rest) := by
      refine notNext_cons ?_
      rw [hl]
      cases k <;> simp_all [takesNot]
    rw [List.append_assoc, comparison_of_sum hsum hmid]
    exact ht.reads stop n rest htail (by simp only [List.length_cons]; omega) hrest
  | notTest h ht =>
    obtain ⟨before, l, tail, rfl, hb, hl, htail⟩ := kinds_eq_append_cons htaken
    obtain ⟨k, us, rfl, hk⟩ := ht.head
    obtain ⟨m, after, rfl, hm, -⟩ := kinds_eq_cons htail
    simp only [List.length_append, List.length_cons] at hn
    have hsum := h.reads stop n (l :: m :: (after ++ rest)) hb (by omega)
      (notNext_cons (by simp [hl, termSigns, factorSigns]))
    have hread := ht.reads stop n rest htail (by simp only [List.length_cons]; omega)
      hrest
    rw [List.cons_append] at hread
    rw [List.append_assoc, List.cons_append, List.cons_append,
      comparison_of_sum_not hl hm hk hsum, hread]
    rfl
  | compare h hop hr =>
    obtain ⟨before, l, after, rfl, hb, hl, ha⟩ := kinds_eq_append_cons htaken
    simp only [List.length_append, List.length_cons] at hn
    have hsum := h.reads stop n (l :: (after ++ rest)) hb (by omega)
      (notNext_cons (by rw [hl]; exact not_mem_termSigns hop))
    have hread := hr.reads stop n rest ha (by omega) hrest
    rw [List.append_assoc, List.cons_append,
      comparison_of_sum hsum (notNext_cons (by simp [hl])), relation_of_sign hl hop, hread]
    rfl

/-! ## Predicates -/

theorem disjunctionRest_of_notNext (hn : 1 ≤ n) (h : NotNext disjunctionSigns rest) :
    disjunctionRest stop n p rest = .ok (p, rest) := by
  obtain ⟨m, rfl⟩ : ∃ m, n = m + 1 := ⟨n - 1, by omega⟩
  have hskip : skip? (.keyword .or) rest = none :=
    skip?_eq_none (h.mono (by simp [disjunctionSigns]))
  simp only [disjunctionRest, hskip]

theorem conjunctionRest_of_notNext (hn : 1 ≤ n) (h : NotNext conjunctionSigns rest) :
    conjunctionRest stop n p rest = .ok (p, rest) := by
  obtain ⟨m, rfl⟩ : ∃ m, n = m + 1 := ⟨n - 1, by omega⟩
  have hskip : skip? (.keyword .and) rest = none :=
    skip?_eq_none (h.mono (by simp [conjunctionSigns]))
  simp only [conjunctionRest, hskip]

/-- A comparison is read where a group is expected: if it starts with a parenthesis, the attempt
to read that as a predicate fails. -/
theorem group_of_comparison (h : Comparison ts p) (htaken : kinds taken = ts)
    (hread : comparison stop n (taken ++ rest) = .ok (p, rest)) :
    group stop (n + 1) (taken ++ rest) = .ok (p, rest) := by
  simp only [group]
  split
  · exact hread
  · rename_i tail hopen
    split
    · rename_i r hgrouped
      simp only [bind_eq_ok_iff, expect_eq_ok_iff] at hgrouped
      obtain ⟨⟨q, mid⟩, hq, after, ⟨close, hclose, rfl⟩, -⟩ := hgrouped
      obtain ⟨l, hl, heq⟩ := skip?_eq_some_iff.1 hopen
      obtain ⟨inner, rfl, hd⟩ := disjunction_sound n hq
      have hts : ts ++ kinds rest = .leftParen :: kinds inner ++ .rightParen :: kinds after := by
        rw [← htaken, ← kinds_append, heq]
        simp [hl, hclose]
      exact (h.not_parens_disjunction hd hts).elim
    · rw [hread]

theorem Group.notNext_not (h : Group ts p) (htaken : kinds taken = ts) :
    NotNext [.keyword .not] (taken ++ rest) := by
  obtain ⟨k, hk, -⟩ := h.tests
  obtain ⟨k, us, rfl⟩ := List.exists_cons_of_ne_nil (List.ne_nil_of_mem hk)
  obtain ⟨l, tail, rfl, rfl, -⟩ := kinds_eq_cons htaken
  exact notNext_cons (by simpa using h.head_ne_not)

mutual

/-- Reading a disjunction is going on with its tree as the left operand. -/
theorem Disjunction.loops {ts p} (h : Disjunction ts p) (stop n : Nat) (rest : List Lexeme)
    {taken : List Lexeme} (htaken : kinds taken = ts) (hn : 10 * ts.length + 9 ≤ n)
    (hrest : NotNext conjunctionSigns rest) :
    ∃ m, n ≤ m + 10 * ts.length ∧
      disjunction stop n (taken ++ rest) = disjunctionRest stop m p rest :=
  match h with
  | .conjunction h => by
    obtain ⟨m, rfl⟩ : ∃ m, n = m + 1 := ⟨n - 1, by omega⟩
    have hpos := List.length_pos_iff.2 h.ne_nil
    have hread := eq_of_loops
      (h.loops stop m rest htaken (by omega) (hrest.mono (by simp [conjunctionSigns])))
      (by omega) fun _ hm => conjunctionRest_of_notNext hm hrest
    exact ⟨m, by omega, by simp only [disjunction, hread, ok_bind]⟩
  | .or hl hr => by
    obtain ⟨before, l, after, rfl, hb, hor, ha⟩ := kinds_eq_append_cons htaken
    simp only [List.length_append, List.length_cons] at hn ⊢
    obtain ⟨m, hm, heq⟩ := hl.loops stop n (l :: after ++ rest) hb (by omega)
      (notNext_cons (by simp [hor, conjunctionSigns, termSigns, factorSigns]))
    obtain ⟨m, rfl⟩ : ∃ k, m = k + 1 := ⟨m - 1, by omega⟩
    have hread := eq_of_loops
      (hr.loops stop m rest ha (by omega) (hrest.mono (by simp [conjunctionSigns])))
      (by omega) fun _ hm => conjunctionRest_of_notNext hm hrest
    refine ⟨m, by omega, ?_⟩
    rw [List.append_assoc, heq, List.cons_append]
    simp only [disjunctionRest, skip?_cons_of_kind hor, hread, ok_bind]

theorem Conjunction.loops {ts p} (h : Conjunction ts p) (stop n : Nat) (rest : List Lexeme)
    {taken : List Lexeme} (htaken : kinds taken = ts) (hn : 10 * ts.length + 8 ≤ n)
    (hrest : NotNext termSigns rest) :
    ∃ m, n ≤ m + 10 * ts.length ∧
      conjunction stop n (taken ++ rest) = conjunctionRest stop m p rest :=
  match h with
  | .negation h => by
    obtain ⟨m, rfl⟩ : ∃ m, n = m + 1 := ⟨n - 1, by omega⟩
    have hpos := List.length_pos_iff.2 h.ne_nil
    have hread := h.reads stop m rest htaken (by omega) hrest
    exact ⟨m, by omega, by simp only [conjunction, hread, ok_bind]⟩
  | .and hl hr => by
    obtain ⟨before, l, after, rfl, hb, hand, ha⟩ := kinds_eq_append_cons htaken
    simp only [List.length_append, List.length_cons] at hn ⊢
    obtain ⟨m, hm, heq⟩ := hl.loops stop n (l :: after ++ rest) hb (by omega)
      (notNext_cons (by simp [hand, termSigns, factorSigns]))
    obtain ⟨m, rfl⟩ : ∃ k, m = k + 1 := ⟨m - 1, by omega⟩
    have hread := hr.reads stop m rest ha (by omega) hrest
    refine ⟨m, by omega, ?_⟩
    rw [List.append_assoc, heq, List.cons_append]
    simp only [conjunctionRest, skip?_cons_of_kind hand, hread, ok_bind]

theorem Negation.reads {ts p} (h : Negation ts p) (stop n : Nat) (rest : List Lexeme)
    {taken : List Lexeme} (htaken : kinds taken = ts) (hn : 10 * ts.length + 7 ≤ n)
    (hrest : NotNext termSigns rest) :
    negation stop n (taken ++ rest) = .ok (p, rest) :=
  match h with
  | .not h => by
    obtain ⟨m, rfl⟩ : ∃ m, n = m + 1 := ⟨n - 1, by omega⟩
    obtain ⟨l, tail, rfl, hnot, ht⟩ := kinds_eq_cons htaken
    simp only [List.length_cons] at hn
    have hread := h.reads stop m rest ht (by omega) hrest
    rw [List.cons_append]
    simp only [negation, skip?_cons_of_kind hnot, hread, ok_bind]
    rfl
  | .group h => by
    obtain ⟨m, rfl⟩ : ∃ m, n = m + 1 := ⟨n - 1, by omega⟩
    have hread := h.reads stop m rest htaken (by omega) hrest
    have hskip : skip? (.keyword .not) (taken ++ rest) = none :=
      skip?_eq_none (h.notNext_not htaken)
    simp only [negation, hskip, hread]

theorem Group.reads {ts p} (h : Group ts p) (stop n : Nat) (rest : List Lexeme)
    {taken : List Lexeme} (htaken : kinds taken = ts) (hn : 10 * ts.length + 6 ≤ n)
    (hrest : NotNext termSigns rest) :
    group stop n (taken ++ rest) = .ok (p, rest) :=
  match h with
  | .parens h => by
    obtain ⟨m, rfl⟩ : ∃ m, n = m + 1 := ⟨n - 1, by omega⟩
    obtain ⟨l, tail, rfl, hopen, ht⟩ := kinds_eq_cons htaken
    obtain ⟨inner, close, last, rfl, hi, hclose, hnil⟩ := kinds_eq_append_cons ht
    obtain rfl := List.map_eq_nil_iff.1 hnil
    simp only [List.cons_append, List.length_cons, List.length_append, List.length_nil] at hn
    have hsigns : NotNext disjunctionSigns (close :: rest) :=
      notNext_cons (by simp [hclose, disjunctionSigns, conjunctionSigns, termSigns, factorSigns])
    have hconj : NotNext conjunctionSigns (close :: rest) :=
      hsigns.mono (by simp [disjunctionSigns])
    have hread := eq_of_loops (h.loops stop m (close :: rest) hi (by omega) hconj) (by omega)
      fun _ hm => disjunctionRest_of_notNext hm hsigns
    rw [List.cons_append, List.append_assoc, List.cons_append, List.nil_append]
    simp only [group, skip?_cons_of_kind hopen, hread, ok_bind, expect_cons_of_kind hclose]
    rfl
  | .comparison h => by
    obtain ⟨m, rfl⟩ : ∃ m, n = m + 1 := ⟨n - 1, by omega⟩
    have hread := h.reads stop m rest htaken (by omega) hrest
    exact group_of_comparison h htaken hread

end

theorem Disjunction.reads (h : Disjunction ts p) (stop n : Nat) (rest : List Lexeme)
    (htaken : kinds taken = ts)
    (hn : 10 * ts.length + 9 ≤ n) (hrest : NotNext disjunctionSigns rest) :
    disjunction stop n (taken ++ rest) = .ok (p, rest) :=
  eq_of_loops (h.loops stop n rest htaken hn (hrest.mono (by simp [disjunctionSigns])))
    (by omega) fun _ hm => disjunctionRest_of_notNext hm hrest

end Grammar

/-! ## Whole texts -/

/-- The text of a clause reads as a predicate if its lexemes derive. -/
theorem predicateOf_of_derives {s : String} {ls : List Lexeme} {p : PlainCondition}
    (hls : lexemes s = .ok ls) (h : Grammar.Disjunction (kinds ls) p) : predicateOf s = .ok p := by
  have hread := h.reads s.utf8ByteSize (enough ls) [] rfl
    (by simp only [enough, kinds, List.length_map]; omega) (by simp [NotNext])
  rw [List.append_nil] at hread
  simp only [predicateOf, hls, ok_bind, hread]
  rfl

/-- The lexemes of a text that reads as a predicate derive. -/
theorem derives_of_predicateOf {s : String} {ls : List Lexeme} {p : PlainCondition}
    (hls : lexemes s = .ok ls) (h : predicateOf s = .ok p) : Grammar.Disjunction (kinds ls) p := by
  simp only [predicateOf, hls, ok_bind, bind_eq_ok_iff] at h
  obtain ⟨⟨q, rest⟩, hq, h⟩ := h
  obtain ⟨taken, rfl, hd⟩ := disjunction_sound (enough ls) hq
  cases rest with
  | nil =>
    cases h
    simpa using hd
  | cons l rest => cases h

/-- **The reader accepts exactly the grammar.**  A text that falls into lexemes reads as a predicate
exactly if its lexemes derive from the rule for disjunctions and the derivation denotes that
predicate. -/
theorem predicateOf_eq_ok_iff_derives {s : String} {ls : List Lexeme} (hls : lexemes s = .ok ls)
    (p : PlainCondition) : predicateOf s = .ok p ↔ Grammar.Disjunction (kinds ls) p :=
  ⟨derives_of_predicateOf hls, predicateOf_of_derives hls⟩

/-- A clause in which parentheses open a predicate and then a sum. -/
theorem predicateOf_nested_clause :
    predicateOf "NOT ((a) > -1)" =
      .ok (.not (.compare .gt (.column "a") (.literal (numberCell "1" true)))) := by
  refine (predicateOf_eq_ok_iff_derives (s := "NOT ((a) > -1)") rfl _).2 ?_
  have hname : Grammar.Sum [.name "a"] (.column "a") := .product (.signed (.atom (.name "a")))
  have hleft : Grammar.Sum [.leftParen, .name "a", .rightParen] (.column "a") :=
    .product (.signed (.atom (.parens hname)))
  have hright : Grammar.Sum [.sign .minus, .number "1"] (.literal (numberCell "1" true)) :=
    .product (.signed (.negative "1"))
  have hcompare : Grammar.Comparison _ _ := .compare (s := .greater) hleft rfl hright
  exact .conjunction (.negation (.not (.group (.parens
    (.conjunction (.negation (.group (.comparison hcompare))))))))

end Crosstab.Clause
