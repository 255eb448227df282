import Crosstab.Proofs.Clause.Soundness

/-!
# Readers see kinds only

What a reader finds depends on what its lexemes stand for, not on where they stand.  Two lists of
lexemes of the same kinds are read alike (`disjunction_uniform`): with the same tree and the same
number of lexemes left, or with the same fault at lexemes that correspond.

Only a parenthesis that opens neither a predicate nor a sum compares offsets, those of two faults.
The faults are at lexemes, so it is enough that offsets increase along each list (`Parallel`).
-/

namespace Crosstab.Clause

variable {α β : Type} {stop stop' fuel : Nat} {ls ls' : List Lexeme}

/-! ## Lexemes that correspond -/

/-- Offsets increase from lexeme to lexeme, up to the end of the text. -/
def Increasing (stop : Nat) (ls : List Lexeme) : Prop :=
  (ls.map (·.start) ++ [stop]).Pairwise (· < ·)

theorem Increasing.drop (h : Increasing stop ls) (n : Nat) : Increasing stop (ls.drop n) := by
  refine List.Pairwise.sublist ?_ h
  rw [List.map_drop]
  exact List.Sublist.append (List.drop_sublist n _) (List.Sublist.refl _)

/-- Two lists of lexemes of the same kinds, with increasing offsets. -/
structure Parallel (stop stop' : Nat) (ls ls' : List Lexeme) : Prop where
  kinds_eq : kinds ls = kinds ls'
  increasing : Increasing stop ls
  increasing' : Increasing stop' ls'

theorem Parallel.drop (h : Parallel stop stop' ls ls') (n : Nat) :
    Parallel stop stop' (ls.drop n) (ls'.drop n) where
  kinds_eq := by
    have hkinds := congrArg (List.drop n) h.kinds_eq
    rwa [kinds, kinds, ← List.map_drop, ← List.map_drop] at hkinds
  increasing := h.increasing.drop n
  increasing' := h.increasing'.drop n

/-- Two readings give the same tree and leave lexemes that correspond, or find the same fault at
lexemes that correspond. -/
inductive SameReading (stop stop' : Nat) (ls ls' : List Lexeme) :
    Except ClauseError (α × List Lexeme) → Except ClauseError (α × List Lexeme) → Prop where
  | ok (a : α) (n : Nat) : SameReading stop stop' ls ls' (.ok (a, ls.drop n)) (.ok (a, ls'.drop n))
  | error (fault : ClauseFault) (n : Nat) : SameReading stop stop' ls ls'
    (.error (faultHere stop fault (ls.drop n))) (.error (faultHere stop' fault (ls'.drop n)))

namespace SameReading

theorem here (a : α) : SameReading stop stop' ls ls' (.ok (a, ls)) (.ok (a, ls')) := .ok a 0

theorem fault (f : ClauseFault) : SameReading (α := α) stop stop' ls ls'
    (.error (faultHere stop f ls)) (.error (faultHere stop' f ls')) := .error f 0

/-- Readings of the rests of two lists are readings of the lists. -/
theorem of_drop {n : Nat} {r r' : Except ClauseError (α × List Lexeme)}
    (h : SameReading stop stop' (ls.drop n) (ls'.drop n) r r') :
    SameReading stop stop' ls ls' r r' := by
  cases h with
  | ok a m =>
    rw [List.drop_drop, List.drop_drop]
    exact .ok a _
  | error f m =>
    rw [List.drop_drop, List.drop_drop]
    exact .error f _

theorem tail {r r' : Except ClauseError (α × List Lexeme)}
    (h : SameReading stop stop' (ls.drop 1) (ls'.drop 1) r r') :
    SameReading stop stop' ls ls' r r' := h.of_drop

/-- What follows a reading may still find a fault where the reading began. -/
theorem bind {x x' : Except ClauseError (α × List Lexeme)}
    {f f' : α × List Lexeme → Except ClauseError (β × List Lexeme)}
    (h : SameReading stop stop' ls ls' x x')
    (hf : ∀ a n, SameReading stop stop' ls ls' (f (a, ls.drop n)) (f' (a, ls'.drop n))) :
    SameReading stop stop' ls ls' (x >>= f) (x' >>= f') := by
  cases h with
  | ok a n => exact hf a n
  | error fault n => exact .error fault n

end SameReading

/-- The reader finds the same in lexemes of the same kinds. -/
def Uniform (read : Nat → Reader α) : Prop :=
  ∀ ⦃stop stop' : Nat⦄ ⦃ls ls' : List Lexeme⦄, Parallel stop stop' ls ls' →
    SameReading stop stop' ls ls' (read stop ls) (read stop' ls')

/-- One reader after another. -/
theorem Uniform.bind {read : Nat → Reader α} (hread : Uniform read)
    (h : Parallel stop stop' ls ls') {f f' : α × List Lexeme → Except ClauseError (β × List Lexeme)}
    (hf : ∀ a {ms ms' : List Lexeme}, Parallel stop stop' ms ms' →
      SameReading stop stop' ms ms' (f (a, ms)) (f' (a, ms'))) :
    SameReading stop stop' ls ls' (read stop ls >>= f) (read stop' ls' >>= f') :=
  (hread h).bind fun a n => (hf a (h.drop n)).of_drop

/-! ## Single lexemes -/

/-- A lexeme is there in both lists or in none. -/
theorem Parallel.skip? (h : Parallel stop stop' ls ls') (k : LexemeKind) :
    (Clause.skip? k ls = none ∧ Clause.skip? k ls' = none) ∨
      (Clause.skip? k ls = some (ls.drop 1) ∧ Clause.skip? k ls' = some (ls'.drop 1)) := by
  have hskip : ∀ ms : List Lexeme, Clause.skip? k ms =
      if (kinds ms).head? = some k then some (ms.drop 1) else none := by
    intro ms
    cases ms with
    | nil => rfl
    | cons m ms => simp [Clause.skip?]
  rw [hskip, hskip, h.kinds_eq]
  split
  · exact .inr ⟨rfl, rfl⟩
  · exact .inl ⟨rfl, rfl⟩

theorem Parallel.expect_bind (h : Parallel stop stop' ls ls') (k : LexemeKind) (f : ClauseFault)
    {g g' : List Lexeme → Except ClauseError (α × List Lexeme)}
    (hg : SameReading stop stop' (ls.drop 1) (ls'.drop 1) (g (ls.drop 1)) (g' (ls'.drop 1))) :
    SameReading stop stop' ls ls' (expect stop k f ls >>= g) (expect stop' k f ls' >>= g') := by
  have hexpect : ∀ stop (ms : List Lexeme), expect stop k f ms =
      if (kinds ms).head? = some k then .ok (ms.drop 1) else .error (faultHere stop f ms) := by
    intro stop ms
    cases ms with
    | nil => rfl
    | cons m ms => simp [expect, faultHere]
  rw [hexpect, hexpect, h.kinds_eq]
  split
  · exact hg.tail
  · exact .fault f

/-! ## Scalars -/

theorem sumRest_succ (stop fuel : Nat) (left : Scalar Empty) (ls : List Lexeme) :
    sumRest stop (fuel + 1) left ls = match kinds ls with
      | .sign .plus :: _ => do
        let (right, rest) ← product stop fuel (ls.drop 1)
        sumRest stop fuel (.binary .add left right) rest
      | .sign .minus :: _ => do
        let (right, rest) ← product stop fuel (ls.drop 1)
        sumRest stop fuel (.binary .sub left right) rest
      | _ => .ok (left, ls) := by
  rcases ls with _ | ⟨⟨k, _, _, _⟩, rest⟩
  · rfl
  · cases k with
    | sign s => cases s <;> rfl
    | _ => rfl

theorem productRest_succ (stop fuel : Nat) (left : Scalar Empty) (ls : List Lexeme) :
    productRest stop (fuel + 1) left ls = match kinds ls with
      | .sign .star :: _ => do
        let (right, rest) ← signed stop fuel (ls.drop 1)
        productRest stop fuel (.binary .mul left right) rest
      | .sign .slash :: _ => do
        let (right, rest) ← signed stop fuel (ls.drop 1)
        productRest stop fuel (.binary .div left right) rest
      | _ => .ok (left, ls) := by
  rcases ls with _ | ⟨⟨k, _, _, _⟩, rest⟩
  · rfl
  · cases k with
    | sign s => cases s <;> rfl
    | _ => rfl

theorem signed_succ (stop fuel : Nat) (ls : List Lexeme) :
    signed stop (fuel + 1) ls = match kinds ls with
      | .sign .minus :: .number numeral :: _ => .ok (.literal (numberCell numeral true), ls.drop 2)
      | .sign .minus :: _ => do
        let (operand, rest) ← signed stop fuel (ls.drop 1)
        return (.binary .sub (.literal (.int 0)) operand, rest)
      | _ => atom stop fuel ls := by
  rcases ls with _ | ⟨⟨k, _, _, _⟩, rest⟩
  · rfl
  · cases k with
    | sign s =>
      cases s with
      | minus =>
        rcases rest with _ | ⟨⟨k, _, _, _⟩, rest⟩
        · rfl
        · cases k <;> rfl
      | _ => rfl
    | _ => rfl

theorem atom_succ (stop fuel : Nat) (ls : List Lexeme) :
    atom stop (fuel + 1) ls = match kinds ls with
      | [] => .error (faultHere stop .expressionExpected ls)
      | .name name :: _ => .ok (.column name, ls.drop 1)
      | .leftParen :: _ => do
        let (inner, rest) ← sum stop fuel (ls.drop 1)
        let rest ← expect stop .rightParen .closingParenExpected rest
        return (inner, rest)
      | k :: _ => match literal? k, k with
        | some value, _ => .ok (.literal value, ls.drop 1)
        | none, .keyword k => .error (faultHere stop (.strayKeyword k) ls)
        | none, _ => .error (faultHere stop .expressionExpected ls) := by
  rcases ls with _ | ⟨⟨k, _, _, _⟩, rest⟩
  · rfl
  · cases k with
    | keyword k => cases k <;> rfl
    | _ => rfl

mutual

theorem sum_uniform : ∀ fuel, Uniform fun stop => sum stop fuel
  | 0, _, _, _, _, _ => .fault _
  | fuel + 1, _, _, _, _, h => by
    dsimp only
    unfold sum
    exact (product_uniform fuel).bind h fun left _ _ h => sumRest_uniform fuel left h

theorem sumRest_uniform : ∀ fuel left, Uniform fun stop => sumRest stop fuel left
  | 0, _, _, _, _, _, _ => .fault _
  | fuel + 1, left, _, _, _, _, h => by
    dsimp only
    rw [sumRest_succ, sumRest_succ, h.kinds_eq]
    split
    · exact ((product_uniform fuel).bind (h.drop 1) fun _ _ _ h => sumRest_uniform fuel _ h).tail
    · exact ((product_uniform fuel).bind (h.drop 1) fun _ _ _ h => sumRest_uniform fuel _ h).tail
    · exact .here left

theorem product_uniform : ∀ fuel, Uniform fun stop => product stop fuel
  | 0, _, _, _, _, _ => .fault _
  | fuel + 1, _, _, _, _, h => by
    dsimp only
    unfold product
    exact (signed_uniform fuel).bind h fun left _ _ h => productRest_uniform fuel left h

theorem productRest_uniform : ∀ fuel left, Uniform fun stop => productRest stop fuel left
  | 0, _, _, _, _, _, _ => .fault _
  | fuel + 1, left, _, _, _, _, h => by
    dsimp only
    rw [productRest_succ, productRest_succ, h.kinds_eq]
    split
    · exact ((signed_uniform fuel).bind (h.drop 1) fun _ _ _ h => productRest_uniform fuel _ h).tail
    · exact ((signed_uniform fuel).bind (h.drop 1) fun _ _ _ h => productRest_uniform fuel _ h).tail
    · exact .here left

theorem signed_uniform : ∀ fuel, Uniform fun stop => signed stop fuel
  | 0, _, _, _, _, _ => .fault _
  | fuel + 1, _, _, _, _, h => by
    dsimp only
    rw [signed_succ, signed_succ, h.kinds_eq]
    split
    · exact .ok _ 2
    · refine ((signed_uniform fuel).bind (h.drop 1) fun operand _ _ _ => ?_).tail
      exact .here _
    · exact atom_uniform fuel h

theorem atom_uniform : ∀ fuel, Uniform fun stop => atom stop fuel
  | 0, _, _, _, _, _ => .fault _
  | fuel + 1, _, _, _, _, h => by
    dsimp only
    rw [atom_succ, atom_succ, h.kinds_eq]
    split
    · exact .fault _
    · exact .ok _ 1
    · refine ((sum_uniform fuel).bind (h.drop 1) fun inner _ _ h => ?_).tail
      exact h.expect_bind _ _ (.here inner)
    · split
      · exact .ok _ 1
      · exact .fault _
      · exact .fault _

end

/-! ## Ranges and lists -/

theorem bound_uniform (fuel : Nat) : Uniform fun stop => bound stop fuel := by
  intro stop stop' ls ls' h
  refine (sum_uniform fuel h).bind fun e n => ?_
  dsimp only
  -- A sum that is no literal is a fault where the sum begins.
  cases e.literal? with
  | none => exact .fault _
  | some value => exact .ok value n

theorem range_uniform (fuel : Nat) (e : Scalar Empty) : Uniform fun stop => range stop fuel e := by
  intro stop stop' ls ls' h
  refine (bound_uniform fuel).bind h fun low ms ms' h => ?_
  refine h.expect_bind _ _ ?_
  exact (bound_uniform fuel).bind (h.drop 1) fun high _ _ _ => .here _

theorem member_eq (stop : Nat) (ls : List Lexeme) : member stop ls = match kinds ls with
    | .sign .minus :: .number numeral :: _ => .ok (numberCell numeral true, ls.drop 2)
    | k :: _ => match literal? k with
      | some value => .ok (value, ls.drop 1)
      | none => .error (faultHere stop .memberNotLiteral ls)
    | [] => .error (faultHere stop .literalExpected ls) := by
  rcases ls with _ | ⟨⟨k, _, _, _⟩, rest⟩
  · rfl
  · cases k with
    | sign s =>
      cases s with
      | minus =>
        rcases rest with _ | ⟨⟨k, _, _, _⟩, rest⟩
        · rfl
        · cases k <;> rfl
      | _ => rfl
    | keyword k => cases k <;> rfl
    | _ => rfl

theorem member_uniform : Uniform member := by
  intro stop stop' ls ls' h
  rw [member_eq, member_eq, h.kinds_eq]
  split
  · exact .ok _ 2
  · split
    · exact .ok _ 1
    · exact .fault _
  · exact .fault _

theorem members_uniform : ∀ fuel, Uniform fun stop => members stop fuel
  | 0, _, _, _, _, _ => .fault _
  | fuel + 1, _, _, _, _, h => by
    dsimp only
    unfold members
    refine member_uniform.bind h fun value ms ms' h => ?_
    dsimp only
    rcases h.skip? .comma with ⟨hls, hls'⟩ | ⟨hls, hls'⟩
    · rw [hls, hls']
      exact h.expect_bind _ _ (.here _)
    · rw [hls, hls']
      refine SameReading.tail ((members_uniform fuel).bind (h.drop 1) fun values _ _ _ => ?_)
      exact .here (value :: values)

theorem list_uniform (fuel : Nat) (e : Scalar Empty) : Uniform fun stop => list stop fuel e := by
  intro stop stop' ls ls' h
  refine h.expect_bind _ _ ?_
  dsimp only
  rcases (h.drop 1).skip? .rightParen with ⟨hls, hls'⟩ | ⟨hls, hls'⟩
  · rw [hls, hls']
    exact (members_uniform fuel).bind (h.drop 1) fun _ _ _ _ => .here _
  · rw [hls, hls']
    exact .ok _ 1

/-! ## Comparisons -/

theorem nullTest_uniform (e : Scalar Empty) : Uniform fun stop => nullTest stop e := by
  intro stop stop' ls ls' h
  dsimp only
  unfold nullTest
  rcases h.skip? (.keyword .not) with ⟨hls, hls'⟩ | ⟨hls, hls'⟩
  · rw [hls, hls']
    exact h.expect_bind _ _ (.here _)
  · rw [hls, hls']
    exact ((h.drop 1).expect_bind _ _ (.here _)).tail

theorem relation_eq (stop fuel : Nat) (left : Scalar Empty) (ls : List Lexeme) :
    relation stop fuel left ls = match kinds ls with
      | .keyword .between :: _ => range stop fuel left (ls.drop 1)
      | .keyword .in :: _ => list stop fuel left (ls.drop 1)
      | .keyword .like :: _ => do
        let (pattern, rest) ← sum stop fuel (ls.drop 1)
        return (.like left pattern false false, rest)
      | .keyword .ilike :: _ => do
        let (pattern, rest) ← sum stop fuel (ls.drop 1)
        return (.like left pattern true false, rest)
      | .sign s :: _ => match s.comparison? with
        | some op => do
          let (right, rest) ← sum stop fuel (ls.drop 1)
          return (.compare op left right, rest)
        | none => .error (faultHere stop .predicateExpected ls)
      | _ => .error (faultHere stop .predicateExpected ls) := by
  rcases ls with _ | ⟨⟨k, _, _, _⟩, rest⟩
  · rfl
  · cases k with
    | keyword k => cases k <;> rfl
    | _ => rfl

theorem relation_uniform (fuel : Nat) (left : Scalar Empty) :
    Uniform fun stop => relation stop fuel left := by
  intro stop stop' ls ls' h
  dsimp only
  rw [relation_eq, relation_eq, h.kinds_eq]
  split
  · exact (range_uniform fuel left (h.drop 1)).tail
  · exact (list_uniform fuel left (h.drop 1)).tail
  · refine ((sum_uniform fuel).bind (h.drop 1) fun pattern _ _ _ => ?_).tail
    exact .here _
  · refine ((sum_uniform fuel).bind (h.drop 1) fun pattern _ _ _ => ?_).tail
    exact .here _
  · split
    · refine ((sum_uniform fuel).bind (h.drop 1) fun right _ _ _ => ?_).tail
      exact .here _
    · exact .fault _
  · exact .fault _

theorem comparison_eq (stop fuel : Nat) (ls : List Lexeme) :
    comparison stop fuel ls = sum stop fuel ls >>= fun (left, ls) =>
      match kinds ls with
      | .keyword .is :: _ => nullTest stop left (ls.drop 1)
      | .keyword .not :: .keyword k :: _ =>
        if takesNot k then do
          let (p, rest) ← relation stop fuel left (ls.drop 1)
          return (.not p, rest)
        else relation stop fuel left ls
      | _ => relation stop fuel left ls := by
  unfold comparison
  congr 1
  funext ⟨left, ls⟩
  rcases ls with _ | ⟨⟨k, _, _, _⟩, rest⟩
  · rfl
  · cases k with
    | keyword k =>
      cases k with
      | not =>
        rcases rest with _ | ⟨⟨k, _, _, _⟩, rest⟩
        · rfl
        · cases k <;> rfl
      | _ => rfl
    | _ => rfl

theorem comparison_uniform (fuel : Nat) : Uniform fun stop => comparison stop fuel := by
  intro stop stop' ls ls' h
  dsimp only
  rw [comparison_eq, comparison_eq]
  refine (sum_uniform fuel).bind h fun left ms ms' h => ?_
  dsimp only
  rw [h.kinds_eq]
  split
  · exact (nullTest_uniform left (h.drop 1)).tail
  · split
    · refine ((relation_uniform fuel left).bind (h.drop 1) fun p _ _ _ => ?_).tail
      exact .here _
    · exact relation_uniform fuel left h
  · exact relation_uniform fuel left h

/-! ## Predicates -/

/-- A fault is as far on in a text as there are lexemes in front of it. -/
theorem Increasing.offset_lt_iff (h : Increasing stop ls) (f g : ClauseFault) (m n : Nat) :
    (faultHere stop f (ls.drop m)).offset < (faultHere stop g (ls.drop n)).offset ↔
      min m ls.length < min n ls.length := by
  have hoffset : ∀ (f : ClauseFault) (n : Nat),
      (ls.map (·.start) ++ [stop])[min n ls.length]? =
        some (faultHere stop f (ls.drop n)).offset := by
    intro f n
    rcases Nat.lt_or_ge n ls.length with hlt | hge
    · rw [Nat.min_eq_left (Nat.le_of_lt hlt), List.getElem?_append_left (by simpa using hlt),
        List.drop_eq_getElem_cons hlt]
      simp [faultHere, faultAt, hlt]
    · rw [Nat.min_eq_right hge, List.drop_eq_nil_of_le hge,
        List.getElem?_append_right (by simp)]
      simp [faultHere]
  have hpairwise := List.pairwise_iff_getElem.mp h
  have hlt : ∀ {i j : Nat} {a b : Nat}, (ls.map (·.start) ++ [stop])[i]? = some a →
      (ls.map (·.start) ++ [stop])[j]? = some b → i < j → a < b := by
    intro i j a b ha hb hij
    obtain ⟨hi, rfl⟩ := List.getElem?_eq_some_iff.mp ha
    obtain ⟨hj, rfl⟩ := List.getElem?_eq_some_iff.mp hb
    exact hpairwise i j hi hj hij
  have hm := hoffset f m
  have hn := hoffset g n
  constructor
  · intro hoffsets
    refine Nat.lt_of_not_le fun hge => ?_
    rcases Nat.lt_or_eq_of_le hge with hgt | heq
    · exact absurd (hlt hn hm hgt) (Nat.lt_asymm hoffsets)
    · rw [heq, hm] at hn
      exact absurd hoffsets (by rw [Option.some.inj hn]; exact Nat.lt_irrefl _)
  · exact hlt hm hn

/-- So which of two faults is further on does not depend on where the lexemes stand. -/
theorem Parallel.offset_lt_iff (h : Parallel stop stop' ls ls') (f g : ClauseFault) (m n : Nat) :
    (faultHere stop f (ls.drop m)).offset < (faultHere stop g (ls.drop n)).offset ↔
      (faultHere stop' f (ls'.drop m)).offset < (faultHere stop' g (ls'.drop n)).offset := by
  have hlength : ls.length = ls'.length := by
    have hkinds := congrArg List.length h.kinds_eq
    rwa [kinds, kinds, List.length_map, List.length_map] at hkinds
  rw [h.increasing.offset_lt_iff, h.increasing'.offset_lt_iff, hlength]

/-- The first of two outcomes that is no fault, or else the fault that is further on. -/
def orElse (r s : Except ClauseError α) : Except ClauseError α :=
  match r with
  | .ok a => .ok a
  | .error e => match s with
    | .ok a => .ok a
    | .error d => .error (if e.offset > d.offset then e else d)

theorem SameReading.orElse (h : Parallel stop stop' ls ls')
    {r r' s s' : Except ClauseError (α × List Lexeme)} (hr : SameReading stop stop' ls ls' r r')
    (hs : SameReading stop stop' ls ls' s s') :
    SameReading stop stop' ls ls' (Clause.orElse r s) (Clause.orElse r' s') := by
  cases hr with
  | ok a n => exact .ok a n
  | error f m =>
    cases hs with
    | ok a n => exact .ok a n
    | error g n =>
      simp only [Clause.orElse, gt_iff_lt, h.offset_lt_iff]
      split
      · exact .error f m
      · exact .error g n

theorem group_succ (stop fuel : Nat) (ls : List Lexeme) :
    group stop (fuel + 1) ls = match skip? .leftParen ls with
      | none => comparison stop fuel ls
      | some rest => orElse
        (disjunction stop fuel rest >>= fun (p, rest) =>
          expect stop .rightParen .closingParenExpected rest >>= fun rest => .ok (p, rest))
        (comparison stop fuel ls) := by
  rw [group]
  cases skip? .leftParen ls with
  | none => rfl
  | some rest =>
    dsimp only [orElse]
    cases disjunction stop fuel rest with
    | error e => cases comparison stop fuel ls <;> rfl
    | ok r =>
      simp only [ok_bind]
      cases expect stop .rightParen .closingParenExpected r.2 with
      | error e => cases comparison stop fuel ls <;> rfl
      | ok rest => rfl

mutual

theorem disjunction_uniform : ∀ fuel, Uniform fun stop => disjunction stop fuel
  | 0, _, _, _, _, _ => .fault _
  | fuel + 1, _, _, _, _, h => by
    dsimp only
    unfold disjunction
    exact (conjunction_uniform fuel).bind h fun left _ _ h => disjunctionRest_uniform fuel left h

theorem disjunctionRest_uniform :
    ∀ fuel left, Uniform fun stop => disjunctionRest stop fuel left
  | 0, _, _, _, _, _, _ => .fault _
  | fuel + 1, left, _, _, _, _, h => by
    dsimp only
    unfold disjunctionRest
    rcases h.skip? (.keyword .or) with ⟨hls, hls'⟩ | ⟨hls, hls'⟩
    · rw [hls, hls']
      exact .here left
    · rw [hls, hls']
      refine SameReading.tail ((conjunction_uniform fuel).bind (h.drop 1) fun right _ _ h => ?_)
      exact disjunctionRest_uniform fuel _ h

theorem conjunction_uniform : ∀ fuel, Uniform fun stop => conjunction stop fuel
  | 0, _, _, _, _, _ => .fault _
  | fuel + 1, _, _, _, _, h => by
    dsimp only
    unfold conjunction
    exact (negation_uniform fuel).bind h fun left _ _ h => conjunctionRest_uniform fuel left h

theorem conjunctionRest_uniform :
    ∀ fuel left, Uniform fun stop => conjunctionRest stop fuel left
  | 0, _, _, _, _, _, _ => .fault _
  | fuel + 1, left, _, _, _, _, h => by
    dsimp only
    unfold conjunctionRest
    rcases h.skip? (.keyword .and) with ⟨hls, hls'⟩ | ⟨hls, hls'⟩
    · rw [hls, hls']
      exact .here left
    · rw [hls, hls']
      refine SameReading.tail ((negation_uniform fuel).bind (h.drop 1) fun right _ _ h => ?_)
      exact conjunctionRest_uniform fuel _ h

theorem negation_uniform : ∀ fuel, Uniform fun stop => negation stop fuel
  | 0, _, _, _, _, _ => .fault _
  | fuel + 1, _, _, _, _, h => by
    dsimp only
    unfold negation
    rcases h.skip? (.keyword .not) with ⟨hls, hls'⟩ | ⟨hls, hls'⟩
    · rw [hls, hls']
      exact group_uniform fuel h
    · rw [hls, hls']
      refine SameReading.tail ((negation_uniform fuel).bind (h.drop 1) fun p _ _ _ => ?_)
      exact .here _

theorem group_uniform : ∀ fuel, Uniform fun stop => group stop fuel
  | 0, _, _, _, _, _ => .fault _
  | fuel + 1, stop, stop', ls, ls', h => by
    dsimp only
    rw [group_succ, group_succ]
    rcases h.skip? .leftParen with ⟨hls, hls'⟩ | ⟨hls, hls'⟩
    · rw [hls, hls']
      exact comparison_uniform fuel h
    · rw [hls, hls']
      refine SameReading.orElse h (SameReading.tail ?_) (comparison_uniform fuel h)
      refine (disjunction_uniform fuel).bind (h.drop 1) fun p _ _ h => ?_
      exact h.expect_bind _ _ (.here p)

end

/-! ## Texts -/

/-- Texts with lexemes of the same kinds read as the same predicate, or have the same fault at
lexemes that correspond. -/
theorem predicateOf_uniform {s t : String} (hs : lexemes s = .ok ls) (ht : lexemes t = .ok ls')
    (h : Parallel s.utf8ByteSize t.utf8ByteSize ls ls') :
    (∃ p, predicateOf s = .ok p ∧ predicateOf t = .ok p) ∨
      ∃ f n, predicateOf s = .error (faultHere s.utf8ByteSize f (ls.drop n)) ∧
        predicateOf t = .error (faultHere t.utf8ByteSize f (ls'.drop n)) := by
  have henough : enough ls = enough ls' := by
    have hlength := congrArg List.length h.kinds_eq
    rw [kinds, kinds, List.length_map, List.length_map] at hlength
    rw [enough, enough, hlength]
  have hread := disjunction_uniform (enough ls') h
  simp only [predicateOf, hs, ht, ok_bind, henough]
  dsimp only at hread
  generalize disjunction s.utf8ByteSize (enough ls') ls = r at hread ⊢
  generalize disjunction t.utf8ByteSize (enough ls') ls' = r' at hread ⊢
  cases hread with
  | error f n => exact .inr ⟨f, n, rfl, rfl⟩
  | ok p n =>
    have hkinds := (h.drop n).kinds_eq
    cases hrest : ls.drop n with
    | nil =>
      rw [hrest] at hkinds
      have hnil : ls'.drop n = [] := List.map_eq_nil_iff.mp hkinds.symm
      rw [hnil]
      exact .inl ⟨p, rfl, rfl⟩
    | cons l rest =>
      rw [hrest] at hkinds
      obtain ⟨l', rest', hcons, -, -⟩ := List.map_eq_cons_iff.mp hkinds.symm
      rw [hcons]
      refine .inr ⟨.trailingInput, n, ?_, ?_⟩
      · rw [hrest]
        rfl
      · rw [hcons]
        rfl

end Crosstab.Clause
