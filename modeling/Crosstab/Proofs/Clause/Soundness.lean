import Crosstab.Proofs.Clause.Grammar
import Crosstab.Proofs.Outcome

/-!
# What is read derives

Every reader of clauses takes lexemes from the head of a list that derive from its rule of the
grammar, and returns the tree that the derivation denotes: `sum_sound` for scalars and
`disjunction_sound` for predicates.  The statements do not mention how deep a reader may go, since
a reader that stops too early returns nothing.
-/

namespace Crosstab.Clause

/-- What some lexemes stand for. -/
def kinds (ls : List Lexeme) : List LexemeKind := ls.map (·.kind)

@[simp] theorem kinds_nil : kinds [] = [] := rfl

@[simp] theorem kinds_cons (l : Lexeme) (ls : List Lexeme) : kinds (l :: ls) = l.kind :: kinds ls :=
  rfl

@[simp] theorem kinds_append (ls ms : List Lexeme) : kinds (ls ++ ms) = kinds ls ++ kinds ms :=
  List.map_append

/-- A reader takes lexemes that derive from a rule, and returns what the derivation denotes. -/
def Sound {α : Type} (rule : List LexemeKind → α → Prop) (read : Reader α) : Prop :=
  ∀ {ls rest : List Lexeme} {a : α}, read ls = .ok (a, rest) →
    ∃ taken, ls = taken ++ rest ∧ rule (kinds taken) a

variable {stop fuel : Nat}

/-! ## Single lexemes -/

theorem skip?_eq_some_iff {k : LexemeKind} {ls rest : List Lexeme} :
    skip? k ls = some rest ↔ ∃ l, l.kind = k ∧ ls = l :: rest := by
  cases ls with
  | nil => simp [skip?]
  | cons l ls =>
    by_cases hk : l.kind = k
    · simp only [skip?, if_pos hk, Option.some.injEq]
      constructor
      · rintro rfl
        exact ⟨l, hk, rfl⟩
      · rintro ⟨_, _, ⟨⟩⟩
        rfl
    · simp only [skip?, if_neg hk, reduceCtorEq, false_iff, not_exists, not_and]
      rintro m hm ⟨⟩
      exact hk hm

theorem expect_eq_ok_iff {k : LexemeKind} {fault : ClauseFault} {ls rest : List Lexeme} :
    expect stop k fault ls = .ok rest ↔ ∃ l, l.kind = k ∧ ls = l :: rest := by
  rw [← skip?_eq_some_iff]
  cases ls with
  | nil => simp [expect, skip?]
  | cons l ls => by_cases hk : l.kind = k <;> simp [expect, skip?, hk]

theorem literal?_eq_some_iff {k : LexemeKind} {c : Cell} :
    literal? k = some c ↔ Grammar.Literal k c := by
  constructor
  · intro h
    unfold literal? at h
    split at h <;> cases h <;> constructor
  · intro h
    cases h <;> rfl

/-! ## Scalars -/

/-- The lexemes that a loop takes extend whatever its left operand derives from. -/
def SoundAfter {α : Type} (rule : List LexemeKind → α → Prop) (left : α) (read : Reader α) : Prop :=
  ∀ {ls rest : List Lexeme} {a : α}, read ls = .ok (a, rest) →
    ∃ taken, ls = taken ++ rest ∧ ∀ ts, rule ts left → rule (ts ++ kinds taken) a

/-- One round of a loop: an operator, its right operand, and what follows. -/
theorem soundAfter_step {α β : Type} {rule : List LexemeKind → α → Prop}
    {operand : List LexemeKind → β → Prop} {left a : α} {build : β → α} {read : Reader β}
    {loop : α → Reader α} {l : Lexeme} {ls rest : List Lexeme} (hread : Sound operand read)
    (hloop : ∀ b, SoundAfter rule (build b) (loop (build b)))
    (hbuild : ∀ ts us b, rule ts left → operand us b → rule (ts ++ l.kind :: us) (build b))
    (h : (read ls >>= fun x => loop (build x.1) x.2) = .ok (a, rest)) :
    ∃ taken, l :: ls = taken ++ rest ∧ ∀ ts, rule ts left → rule (ts ++ kinds taken) a := by
  rw [bind_eq_ok_iff] at h
  obtain ⟨⟨right, mid⟩, hright, hrest⟩ := h
  obtain ⟨taken, rfl, hr⟩ := hread hright
  obtain ⟨more, rfl, hm⟩ := hloop right hrest
  refine ⟨l :: taken ++ more, by simp, ?_⟩
  intro ts hts
  simpa using hm _ (hbuild ts _ right hts hr)

mutual

theorem sum_sound : ∀ fuel, Sound Grammar.Sum (sum stop fuel)
  | 0, ls, rest, e, h => by simp [sum] at h
  | fuel + 1, ls, rest, e, h => by
    simp only [sum, bind_eq_ok_iff] at h
    obtain ⟨⟨left, mid⟩, hleft, hrest⟩ := h
    obtain ⟨taken, rfl, hl⟩ := product_sound fuel hleft
    obtain ⟨more, rfl, hr⟩ := sumRest_sound fuel left hrest
    exact ⟨taken ++ more, by simp, by simpa using hr _ (.product hl)⟩

theorem sumRest_sound : ∀ fuel left, SoundAfter Grammar.Sum left (sumRest stop fuel left)
  | 0, left, ls, rest, e, h => by simp [sumRest] at h
  | fuel + 1, left, ls, rest, e, h => by
    unfold sumRest at h
    split at h
    · exact soundAfter_step (product_sound fuel) (fun _ => sumRest_sound fuel _)
        (fun _ _ _ hl hr => .add hl hr) h
    · exact soundAfter_step (product_sound fuel) (fun _ => sumRest_sound fuel _)
        (fun _ _ _ hl hr => .sub hl hr) h
    · cases h
      exact ⟨[], rfl, fun ts hts => by simpa using hts⟩

theorem product_sound : ∀ fuel, Sound Grammar.Product (product stop fuel)
  | 0, ls, rest, e, h => by simp [product] at h
  | fuel + 1, ls, rest, e, h => by
    simp only [product, bind_eq_ok_iff] at h
    obtain ⟨⟨left, mid⟩, hleft, hrest⟩ := h
    obtain ⟨taken, rfl, hl⟩ := signed_sound fuel hleft
    obtain ⟨more, rfl, hr⟩ := productRest_sound fuel left hrest
    exact ⟨taken ++ more, by simp, by simpa using hr _ (.signed hl)⟩

theorem productRest_sound :
    ∀ fuel left, SoundAfter Grammar.Product left (productRest stop fuel left)
  | 0, left, ls, rest, e, h => by simp [productRest] at h
  | fuel + 1, left, ls, rest, e, h => by
    unfold productRest at h
    split at h
    · exact soundAfter_step (signed_sound fuel) (fun _ => productRest_sound fuel _)
        (fun _ _ _ hl hr => .mul hl hr) h
    · exact soundAfter_step (signed_sound fuel) (fun _ => productRest_sound fuel _)
        (fun _ _ _ hl hr => .div hl hr) h
    · cases h
      exact ⟨[], rfl, fun ts hts => by simpa using hts⟩

theorem signed_sound : ∀ fuel, Sound Grammar.Signed (signed stop fuel)
  | 0, ls, rest, e, h => by simp [signed] at h
  | fuel + 1, ls, rest, e, h => by
    unfold signed at h
    split at h
    · cases h
      exact ⟨[_, _], rfl, .negative _⟩
    · rename_i start stopAt source tail hnumber
      simp only [bind_eq_ok_iff] at h
      obtain ⟨⟨operand, mid⟩, hoperand, hrest⟩ := h
      obtain ⟨taken, rfl, ho⟩ := signed_sound fuel hoperand
      cases hrest
      refine ⟨_ :: taken, rfl, .minus ho ?_⟩
      intro numeral hts
      -- a number right after the sign would have been taken with it
      match taken, hts with
      | [⟨_, a, b, s⟩], rfl => exact hnumber _ a b s _ rfl
    · obtain ⟨taken, rfl, ha⟩ := atom_sound fuel h
      exact ⟨taken, rfl, .atom ha⟩

theorem atom_sound : ∀ fuel, Sound Grammar.Atom (atom stop fuel)
  | 0, ls, rest, e, h => by simp [atom] at h
  | fuel + 1, ls, rest, e, h => by
    unfold atom at h
    split at h
    · cases h
    · rename_i l tail
      split at h
      · rename_i name hk
        cases h
        exact ⟨[l], rfl, by simpa [hk] using Grammar.Atom.name name⟩
      · rename_i hk
        simp only [bind_eq_ok_iff, expect_eq_ok_iff] at h
        obtain ⟨⟨inner, mid⟩, hinner, _, ⟨m, hm, rfl⟩, hrest⟩ := h
        obtain ⟨taken, rfl, hs⟩ := sum_sound fuel hinner
        cases hrest
        refine ⟨l :: taken ++ [m], by simp, ?_⟩
        simpa [hk, hm] using Grammar.Atom.parens hs
      · split at h
        · rename_i value hv
          cases h
          exact ⟨[l], rfl, .literal (literal?_eq_some_iff.1 hv)⟩
        · cases h
        · cases h

end

/-! ## Ranges and lists -/

theorem bound_sound : Sound (fun ts c => Grammar.Sum ts (.literal c)) (bound stop fuel) := by
  intro ls rest c h
  simp only [bound, bind_eq_ok_iff] at h
  obtain ⟨⟨e, mid⟩, he, hc⟩ := h
  obtain ⟨taken, rfl, hs⟩ := sum_sound fuel he
  cases e with
  | literal value =>
    cases hc
    exact ⟨taken, rfl, hs⟩
  | _ => cases hc

theorem member_sound : Sound Grammar.Value (member stop) := by
  intro ls rest c h
  unfold member at h
  split at h
  · cases h
    exact ⟨[_, _], rfl, .negative _⟩
  · rename_i l tail _
    split at h
    · rename_i value hv
      cases h
      exact ⟨[l], rfl, .literal (literal?_eq_some_iff.1 hv)⟩
    · cases h
  · cases h

/-- The members of a list are taken together with the parenthesis that closes it. -/
theorem members_sound : ∀ fuel {ls rest : List Lexeme} {cs : List Cell},
    members stop fuel ls = .ok (cs, rest) →
      ∃ taken l, l.kind = .rightParen ∧ ls = taken ++ l :: rest ∧ Grammar.Values (kinds taken) cs
  | 0, ls, rest, cs, h => by simp [members] at h
  | fuel + 1, ls, rest, cs, h => by
    simp only [members, bind_eq_ok_iff] at h
    obtain ⟨⟨value, mid⟩, hvalue, h⟩ := h
    obtain ⟨taken, rfl, hv⟩ := member_sound hvalue
    split at h
    · rename_i after hcomma
      obtain ⟨m, hm, rfl⟩ := skip?_eq_some_iff.1 hcomma
      simp only [bind_eq_ok_iff] at h
      obtain ⟨⟨values, last⟩, hvalues, hrest⟩ := h
      obtain ⟨more, l, hl, rfl, hvs⟩ := members_sound fuel hvalues
      cases hrest
      refine ⟨taken ++ m :: more, l, hl, by simp, ?_⟩
      simpa [hm] using Grammar.Values.more hv hvs
    · simp only [bind_eq_ok_iff, expect_eq_ok_iff] at h
      obtain ⟨after, ⟨l, hl, rfl⟩, hrest⟩ := h
      cases hrest
      exact ⟨taken, l, hl, rfl, .one hv⟩

/-! ## Comparisons -/

variable {e : Scalar Empty} {ls rest : List Lexeme} {p : PlainCondition} {l : Lexeme}

theorem range_sound (hl : l.kind = .keyword .between) (h : range stop fuel e ls = .ok (p, rest)) :
    ∃ taken, l :: ls = taken ++ rest ∧ Grammar.Test e (kinds taken) p := by
  simp only [range, bind_eq_ok_iff, expect_eq_ok_iff] at h
  obtain ⟨⟨low, mid⟩, hlow, after, ⟨m, hm, rfl⟩, ⟨high, last⟩, hhigh, hrest⟩ := h
  obtain ⟨taken, rfl, h1⟩ := bound_sound hlow
  obtain ⟨more, rfl, h2⟩ := bound_sound hhigh
  cases hrest
  refine ⟨l :: taken ++ m :: more, by simp, ?_⟩
  simpa [hl, hm] using Grammar.Test.between h1 h2

theorem list_sound (hl : l.kind = .keyword .in) (h : list stop fuel e ls = .ok (p, rest)) :
    ∃ taken, l :: ls = taken ++ rest ∧ Grammar.Test e (kinds taken) p := by
  simp only [list, bind_eq_ok_iff, expect_eq_ok_iff] at h
  obtain ⟨after, ⟨m, hm, rfl⟩, h⟩ := h
  split at h
  · rename_i tail hclose
    obtain ⟨n, hn, rfl⟩ := skip?_eq_some_iff.1 hclose
    cases h
    exact ⟨[l, m, n], rfl, by simpa [hl, hm, hn] using Grammar.Test.amongNone⟩
  · simp only [bind_eq_ok_iff] at h
    obtain ⟨⟨values, last⟩, hvalues, hrest⟩ := h
    obtain ⟨taken, n, hn, rfl, hvs⟩ := members_sound fuel hvalues
    cases hrest
    refine ⟨l :: m :: taken ++ [n], by simp, ?_⟩
    simpa [hl, hm, hn] using Grammar.Test.among hvs

/-- What follows a left operand is a test, or an operator with its right operand. -/
theorem relation_sound {left : Scalar Empty} (h : relation stop fuel left ls = .ok (p, rest)) :
    ∃ taken, ls = taken ++ rest ∧ (Grammar.Test left (kinds taken) p ∨
      ∃ s op us right, s.comparison? = some op ∧ Grammar.Sum us right ∧
        kinds taken = .sign s :: us ∧ p = .compare op left right) := by
  unfold relation at h
  split at h
  · obtain ⟨taken, heq, ht⟩ := range_sound (l := ⟨.keyword .between, _, _, _⟩) rfl h
    exact ⟨taken, heq, .inl ht⟩
  · obtain ⟨taken, heq, ht⟩ := list_sound (l := ⟨.keyword .in, _, _, _⟩) rfl h
    exact ⟨taken, heq, .inl ht⟩
  · simp only [bind_eq_ok_iff] at h
    obtain ⟨⟨pattern, mid⟩, hpattern, hrest⟩ := h
    obtain ⟨taken, rfl, hs⟩ := sum_sound fuel hpattern
    cases hrest
    exact ⟨_ :: taken, rfl, .inl (.like hs)⟩
  · simp only [bind_eq_ok_iff] at h
    obtain ⟨⟨pattern, mid⟩, hpattern, hrest⟩ := h
    obtain ⟨taken, rfl, hs⟩ := sum_sound fuel hpattern
    cases hrest
    exact ⟨_ :: taken, rfl, .inl (.ilike hs)⟩
  · split at h
    · rename_i op hop
      simp only [bind_eq_ok_iff] at h
      obtain ⟨⟨right, mid⟩, hright, hrest⟩ := h
      obtain ⟨taken, rfl, hs⟩ := sum_sound fuel hright
      cases hrest
      exact ⟨_ :: taken, rfl, .inr ⟨_, op, kinds taken, right, hop, hs, rfl, rfl⟩⟩
    · cases h
  · cases h

theorem nullTest_sound (h : nullTest stop e ls = .ok (p, rest)) :
    ∃ taken, ls = taken ++ rest ∧
      ((kinds taken = [.keyword .null] ∧ p = .isNull e) ∨
        (kinds taken = [.keyword .not, .keyword .null] ∧ p = .not (.isNull e))) := by
  unfold nullTest at h
  split at h
  · rename_i tail hnot
    obtain ⟨m, hm, rfl⟩ := skip?_eq_some_iff.1 hnot
    simp only [bind_eq_ok_iff, expect_eq_ok_iff] at h
    obtain ⟨after, ⟨n, hn, rfl⟩, hrest⟩ := h
    cases hrest
    exact ⟨[m, n], rfl, .inr ⟨by simp [hm, hn], rfl⟩⟩
  · simp only [bind_eq_ok_iff, expect_eq_ok_iff] at h
    obtain ⟨after, ⟨n, hn, rfl⟩, hrest⟩ := h
    cases hrest
    exact ⟨[n], rfl, .inl ⟨by simp [hn], rfl⟩⟩

theorem comparison_sound : Sound Grammar.Comparison (comparison stop fuel) := by
  intro ls rest p h
  simp only [comparison, bind_eq_ok_iff] at h
  obtain ⟨⟨left, mid⟩, hleft, h⟩ := h
  obtain ⟨taken, rfl, hl⟩ := sum_sound fuel hleft
  have of_relation : relation stop fuel left mid = .ok (p, rest) →
      ∃ all, taken ++ mid = all ++ rest ∧ Grammar.Comparison (kinds all) p := by
    intro h
    obtain ⟨more, rfl, ht | ⟨s, op, us, right, hop, hr, hmore, rfl⟩⟩ := relation_sound h
    · exact ⟨taken ++ more, by simp, by simpa using Grammar.Comparison.test hl ht⟩
    · exact ⟨taken ++ more, by simp, by simpa [hmore] using Grammar.Comparison.compare hl hop hr⟩
  dsimp only at h
  split at h
  · obtain ⟨more, rfl, ⟨hmore, rfl⟩ | ⟨hmore, rfl⟩⟩ := nullTest_sound h
    · exact ⟨taken ++ _ :: more, (List.append_assoc taken (_ :: more) rest).symm,
        by simpa [hmore] using Grammar.Comparison.isNull hl⟩
    · exact ⟨taken ++ _ :: more, (List.append_assoc taken (_ :: more) rest).symm,
        by simpa [hmore] using Grammar.Comparison.isNotNull hl⟩
  · split at h
    · simp only [bind_eq_ok_iff] at h
      obtain ⟨⟨q, last⟩, hq, hrest⟩ := h
      cases hrest
      obtain ⟨more, heq, ht | ⟨s, op, us, right, -, -, hmore, -⟩⟩ := relation_sound hq
      · rw [heq]
        refine ⟨taken ++ _ :: more, (List.append_assoc taken (_ :: more) last).symm, ?_⟩
        simpa using Grammar.Comparison.notTest hl ht
      · -- a keyword is no operator
        cases more with
        | nil => cases hmore
        | cons m more =>
          cases heq
          cases hmore
    · exact of_relation h
  · exact of_relation h

/-! ## Predicates -/

mutual

theorem disjunction_sound : ∀ fuel, Sound Grammar.Disjunction (disjunction stop fuel)
  | 0, ls, rest, p, h => by simp [disjunction] at h
  | fuel + 1, ls, rest, p, h => by
    simp only [disjunction, bind_eq_ok_iff] at h
    obtain ⟨⟨left, mid⟩, hleft, hrest⟩ := h
    obtain ⟨taken, rfl, hl⟩ := conjunction_sound fuel hleft
    obtain ⟨more, rfl, hr⟩ := disjunctionRest_sound fuel left hrest
    exact ⟨taken ++ more, by simp, by simpa using hr _ (.conjunction hl)⟩

theorem disjunctionRest_sound :
    ∀ fuel left, SoundAfter Grammar.Disjunction left (disjunctionRest stop fuel left)
  | 0, left, ls, rest, p, h => by simp [disjunctionRest] at h
  | fuel + 1, left, ls, rest, p, h => by
    unfold disjunctionRest at h
    split at h
    · rename_i tail hor
      obtain ⟨l, hl, rfl⟩ := skip?_eq_some_iff.1 hor
      exact soundAfter_step (conjunction_sound fuel) (fun _ => disjunctionRest_sound fuel _)
        (fun _ _ _ hp hq => by rw [hl]; exact .or hp hq) h
    · cases h
      exact ⟨[], rfl, fun ts hts => by simpa using hts⟩

theorem conjunction_sound : ∀ fuel, Sound Grammar.Conjunction (conjunction stop fuel)
  | 0, ls, rest, p, h => by simp [conjunction] at h
  | fuel + 1, ls, rest, p, h => by
    simp only [conjunction, bind_eq_ok_iff] at h
    obtain ⟨⟨left, mid⟩, hleft, hrest⟩ := h
    obtain ⟨taken, rfl, hl⟩ := negation_sound fuel hleft
    obtain ⟨more, rfl, hr⟩ := conjunctionRest_sound fuel left hrest
    exact ⟨taken ++ more, by simp, by simpa using hr _ (.negation hl)⟩

theorem conjunctionRest_sound :
    ∀ fuel left, SoundAfter Grammar.Conjunction left (conjunctionRest stop fuel left)
  | 0, left, ls, rest, p, h => by simp [conjunctionRest] at h
  | fuel + 1, left, ls, rest, p, h => by
    unfold conjunctionRest at h
    split at h
    · rename_i tail hand
      obtain ⟨l, hl, rfl⟩ := skip?_eq_some_iff.1 hand
      exact soundAfter_step (negation_sound fuel) (fun _ => conjunctionRest_sound fuel _)
        (fun _ _ _ hp hq => by rw [hl]; exact .and hp hq) h
    · cases h
      exact ⟨[], rfl, fun ts hts => by simpa using hts⟩

theorem negation_sound : ∀ fuel, Sound Grammar.Negation (negation stop fuel)
  | 0, ls, rest, p, h => by simp [negation] at h
  | fuel + 1, ls, rest, p, h => by
    unfold negation at h
    split at h
    · rename_i tail hnot
      obtain ⟨l, hl, rfl⟩ := skip?_eq_some_iff.1 hnot
      simp only [bind_eq_ok_iff] at h
      obtain ⟨⟨q, mid⟩, hq, hrest⟩ := h
      obtain ⟨taken, rfl, hn⟩ := negation_sound fuel hq
      cases hrest
      exact ⟨l :: taken, rfl, by simpa [hl] using Grammar.Negation.not hn⟩
    · obtain ⟨taken, rfl, hg⟩ := group_sound fuel h
      exact ⟨taken, rfl, .group hg⟩

theorem group_sound : ∀ fuel, Sound Grammar.Group (group stop fuel)
  | 0, ls, rest, p, h => by simp [group] at h
  | fuel + 1, ls, rest, p, h => by
    unfold group at h
    split at h
    · obtain ⟨taken, rfl, hc⟩ := comparison_sound h
      exact ⟨taken, rfl, .comparison hc⟩
    · rename_i tail hopen
      obtain ⟨l, hl, rfl⟩ := skip?_eq_some_iff.1 hopen
      dsimp only at h
      split at h
      · rename_i r hgrouped
        cases h
        simp only [bind_eq_ok_iff, expect_eq_ok_iff] at hgrouped
        obtain ⟨⟨q, mid⟩, hq, after, ⟨m, hm, rfl⟩, hrest⟩ := hgrouped
        obtain ⟨taken, rfl, hd⟩ := disjunction_sound fuel hq
        cases hrest
        refine ⟨l :: taken ++ [m], by simp, ?_⟩
        simpa [hl, hm] using Grammar.Group.parens hd
      · split at h
        · rename_i r hc
          cases h
          obtain ⟨taken, heq, hc⟩ := comparison_sound hc
          exact ⟨taken, heq, .comparison hc⟩
        · cases h

end

end Crosstab.Clause
