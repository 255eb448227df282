import Crosstab.Proofs.Binary64.Rounding
import Crosstab.Proofs.Expr.Structured
import Crosstab.Proofs.Json.Valid

/-!
# Readers yield finite floats

Whatever is read from a valid value has finite floats only: a float is read from a finite number or
rounded from a whole number of at most 64 bits, and the defaults are zero.  So it is for cells
(`Cell.ofJson?_yields`), expressions (`Scalar.read?_yields`, `Predicate.read?_yields`) and
aggregates (`Aggregate.ofJson?_yields`).
-/

namespace Crosstab

open Json (Yields)

/-! ## Numbers and cells -/

theorem isFinite_ofInt_of_valid {n : Int} (h : (Json.Number.whole n).Valid) :
    (Binary64.ofInt n).isFinite = true := by
  obtain ⟨hlow, hhigh⟩ := h
  simp only [Nat.pow_eq] at hlow hhigh
  exact Binary64.isFinite_ofInt (by omega)

theorem float?_yields : Yields Json.float? fun x => x.isFinite = true := by
  intro v hv x hx
  unfold Json.float? at hx
  split at hx
  · cases hx
    exact isFinite_ofInt_of_valid hv
  · cases hx
    exact hv
  · cases hx

theorem isFinite_zero : Binary64.zero.isFinite = true := by decide

theorem Cell.finite_ofNumber {n : Json.Number} (h : n.Valid) : (Cell.ofNumber n).Finite := by
  unfold Cell.ofNumber
  split
  · split
    · trivial
    · exact isFinite_ofInt_of_valid h
  · exact h

theorem Cell.ofJson?_yields : Yields Cell.ofJson? Cell.Finite := by
  intro v hv c hc
  unfold Cell.ofJson? at hc
  split at hc
  · cases hc
    trivial
  · cases hc
    trivial
  · cases hc
    exact Cell.finite_ofNumber hv
  · cases hc
    trivial
  · obtain ⟨d, -, rfl⟩ := Option.map_eq_some_iff.mp hc
    trivial
  · obtain ⟨t, -, rfl⟩ := Option.map_eq_some_iff.mp hc
    trivial
  · cases hc

theorem Cell.listOfJson?_yields : Yields Cell.listOfJson? fun cs => ∀ c ∈ cs, c.Finite := by
  intro v hv cs hcs
  cases v with
  | array items => exact Cell.ofJson?_yields.mapM (Json.valid_array.mp hv) hcs
  | _ => cases hcs

/-! ## Expressions -/

theorem Scalar.finiteList_iff {κ : Type} {es : List (Scalar κ)} :
    Scalar.FiniteList es ↔ ∀ e ∈ es, e.Finite := by
  induction es with
  | nil => simp [Scalar.FiniteList]
  | cons e rest ih => rw [Scalar.FiniteList, List.forall_mem_cons, ih]

theorem Scalar.finiteBranches_iff {κ : Type} {bs : List (Predicate κ × Scalar κ)} :
    Scalar.FiniteBranches bs ↔ ∀ b ∈ bs, b.1.Finite ∧ b.2.Finite := by
  induction bs with
  | nil => simp [Scalar.FiniteBranches]
  | cons b rest ih => rw [Scalar.FiniteBranches, List.forall_mem_cons, ih, and_assoc]

-- The three readers call each other with less fuel, so that the induction carries them together.
/-- What readers with some fuel make of scalars, branches and predicates is finite. -/
structure ReadersYield (fuel : Nat) : Prop where
  scalar : ∀ inside, Yields (Scalar.read? fuel inside) Scalar.Finite
  branch : Yields (Scalar.readBranch? fuel) fun b => b.1.Finite ∧ b.2.Finite
  predicate : ∀ inside, Yields (Predicate.read? fuel inside) Predicate.Finite

theorem Scalar.read?_step {fuel : Nat} (ih : ReadersYield fuel) (inside : Bool) :
    Yields (Scalar.read? (fuel + 1) inside) Scalar.Finite := by
  intro v hv e he
  rw [Scalar.read?] at he
  obtain ⟨⟨kind, body⟩, hu, he⟩ := Option.bind_eq_some_iff.mp he
  have hbody : body.Valid := hv.untag? hu
  dsimp only at he
  split at he
  · obtain ⟨r, -, he⟩ := Option.bind_eq_some_iff.mp he
    obtain ⟨name, -, he⟩ := Option.bind_eq_some_iff.mp he
    cases he
    trivial
  · obtain ⟨r, ho, he⟩ := Option.bind_eq_some_iff.mp he
    obtain ⟨value, hvalue, he⟩ := Option.bind_eq_some_iff.mp he
    cases he
    exact Cell.ofJson?_yields.required (hbody.open? ho) hvalue
  · obtain ⟨r, ho, he⟩ := Option.bind_eq_some_iff.mp he
    obtain ⟨op, -, he⟩ := Option.bind_eq_some_iff.mp he
    obtain ⟨left, hleft, he⟩ := Option.bind_eq_some_iff.mp he
    obtain ⟨right, hright, he⟩ := Option.bind_eq_some_iff.mp he
    cases he
    exact ⟨(ih.scalar true).required (hbody.open? ho) hleft,
      (ih.scalar true).required (hbody.open? ho) hright⟩
  · obtain ⟨r, ho, he⟩ := Option.bind_eq_some_iff.mp he
    obtain ⟨numerator, hnumerator, he⟩ := Option.bind_eq_some_iff.mp he
    obtain ⟨denominator, hdenominator, he⟩ := Option.bind_eq_some_iff.mp he
    obtain ⟨fill, hfill, he⟩ := Option.bind_eq_some_iff.mp he
    cases he
    exact ⟨(ih.scalar true).required (hbody.open? ho) hnumerator,
      (ih.scalar true).required (hbody.open? ho) hdenominator,
      float?_yields.withDefault (hbody.open? ho) isFinite_zero hfill⟩
  · obtain ⟨r, ho, he⟩ := Option.bind_eq_some_iff.mp he
    obtain ⟨args, hargs, he⟩ := Option.bind_eq_some_iff.mp he
    cases he
    exact Scalar.finiteList_iff.mpr ((ih.scalar true).list?.required (hbody.open? ho) hargs)
  · obtain ⟨r, ho, he⟩ := Option.bind_eq_some_iff.mp he
    obtain ⟨branches, hbranches, he⟩ := Option.bind_eq_some_iff.mp he
    obtain ⟨otherwise, hotherwise, he⟩ := Option.bind_eq_some_iff.mp he
    cases he
    have hfinite : Scalar.FiniteBranches branches :=
      Scalar.finiteBranches_iff.mpr (ih.branch.list?.required (hbody.open? ho) hbranches)
    have hlast := (ih.scalar true).optional (hbody.open? ho) hotherwise
    cases otherwise with
    | none => exact hfinite
    | some last => exact ⟨hfinite, hlast last rfl⟩
  · obtain ⟨r, -, he⟩ := Option.bind_eq_some_iff.mp he
    obtain ⟨text, -, he⟩ := Option.bind_eq_some_iff.mp he
    cases he
    trivial
  · cases he

theorem Scalar.readBranch?_step {fuel : Nat} (ih : ReadersYield fuel) :
    Yields (Scalar.readBranch? (fuel + 1)) fun b => b.1.Finite ∧ b.2.Finite := by
  intro v hv b hb
  rw [Scalar.readBranch?] at hb
  obtain ⟨r, ho, hb⟩ := Option.bind_eq_some_iff.mp hb
  obtain ⟨p, hp, hb⟩ := Option.bind_eq_some_iff.mp hb
  obtain ⟨e, he, hb⟩ := Option.bind_eq_some_iff.mp hb
  cases hb
  exact ⟨(ih.predicate true).required (hv.open? ho) hp, (ih.scalar true).required (hv.open? ho) he⟩

theorem Predicate.read?_step {fuel : Nat} (ih : ReadersYield fuel) (inside : Bool) :
    Yields (Predicate.read? (fuel + 1) inside) Predicate.Finite := by
  intro v hv p hp
  rw [Predicate.read?] at hp
  obtain ⟨⟨kind, body⟩, hu, hp⟩ := Option.bind_eq_some_iff.mp hp
  have hbody : body.Valid := hv.untag? hu
  dsimp only at hp
  split at hp
  · obtain ⟨r, ho, hp⟩ := Option.bind_eq_some_iff.mp hp
    obtain ⟨op, -, hp⟩ := Option.bind_eq_some_iff.mp hp
    obtain ⟨left, hleft, hp⟩ := Option.bind_eq_some_iff.mp hp
    obtain ⟨right, hright, hp⟩ := Option.bind_eq_some_iff.mp hp
    cases hp
    exact ⟨(ih.scalar true).required (hbody.open? ho) hleft,
      (ih.scalar true).required (hbody.open? ho) hright⟩
  · obtain ⟨r, ho, hp⟩ := Option.bind_eq_some_iff.mp hp
    obtain ⟨e, he, hp⟩ := Option.bind_eq_some_iff.mp hp
    obtain ⟨values, hvalues, hp⟩ := Option.bind_eq_some_iff.mp hp
    cases hp
    exact ⟨(ih.scalar true).required (hbody.open? ho) he,
      Cell.listOfJson?_yields.required (hbody.open? ho) hvalues⟩
  · obtain ⟨r, ho, hp⟩ := Option.bind_eq_some_iff.mp hp
    obtain ⟨e, he, hp⟩ := Option.bind_eq_some_iff.mp hp
    obtain ⟨low, hlow, hp⟩ := Option.bind_eq_some_iff.mp hp
    obtain ⟨high, hhigh, hp⟩ := Option.bind_eq_some_iff.mp hp
    obtain ⟨bounds, -, hp⟩ := Option.bind_eq_some_iff.mp hp
    cases hp
    exact ⟨(ih.scalar true).required (hbody.open? ho) he,
      Cell.ofJson?_yields.required (hbody.open? ho) hlow,
      Cell.ofJson?_yields.required (hbody.open? ho) hhigh⟩
  · obtain ⟨r, ho, hp⟩ := Option.bind_eq_some_iff.mp hp
    obtain ⟨e, he, hp⟩ := Option.bind_eq_some_iff.mp hp
    cases hp
    exact (ih.scalar true).required (hbody.open? ho) he
  · obtain ⟨r, ho, hp⟩ := Option.bind_eq_some_iff.mp hp
    obtain ⟨op, -, hp⟩ := Option.bind_eq_some_iff.mp hp
    obtain ⟨left, hleft, hp⟩ := Option.bind_eq_some_iff.mp hp
    obtain ⟨right, hright, hp⟩ := Option.bind_eq_some_iff.mp hp
    cases hp
    exact ⟨(ih.predicate true).required (hbody.open? ho) hleft,
      (ih.predicate true).required (hbody.open? ho) hright⟩
  · obtain ⟨r, ho, hp⟩ := Option.bind_eq_some_iff.mp hp
    obtain ⟨q, hq, hp⟩ := Option.bind_eq_some_iff.mp hp
    have hfinite : q.Finite := (ih.predicate true).required (hbody.open? ho) hq
    cases hp
    exact hfinite
  · obtain ⟨r, ho, hp⟩ := Option.bind_eq_some_iff.mp hp
    obtain ⟨e, he, hp⟩ := Option.bind_eq_some_iff.mp hp
    obtain ⟨pattern, hpattern, hp⟩ := Option.bind_eq_some_iff.mp hp
    obtain ⟨ignoreCase, -, hp⟩ := Option.bind_eq_some_iff.mp hp
    obtain ⟨negated, -, hp⟩ := Option.bind_eq_some_iff.mp hp
    cases hp
    exact ⟨(ih.scalar true).required (hbody.open? ho) he,
      (ih.scalar true).required (hbody.open? ho) hpattern⟩
  · obtain ⟨r, ho, hp⟩ := Option.bind_eq_some_iff.mp hp
    obtain ⟨e, he, hp⟩ := Option.bind_eq_some_iff.mp hp
    obtain ⟨pattern, hpattern, hp⟩ := Option.bind_eq_some_iff.mp hp
    obtain ⟨flags, -, hp⟩ := Option.bind_eq_some_iff.mp hp
    obtain ⟨negated, -, hp⟩ := Option.bind_eq_some_iff.mp hp
    cases hp
    exact ⟨(ih.scalar true).required (hbody.open? ho) he,
      (ih.scalar true).required (hbody.open? ho) hpattern⟩
  · obtain ⟨c, -, hp⟩ := Option.bind_eq_some_iff.mp hp
    cases hp
    trivial
  · cases hp

/-- Readers yield finite expressions, whatever their fuel. -/
theorem readersYield (fuel : Nat) : ReadersYield fuel := by
  induction fuel with
  | zero =>
    exact ⟨fun _ _ _ _ h => (nomatch h), fun _ _ _ h => (nomatch h), fun _ _ _ _ h => (nomatch h)⟩
  | succ fuel ih =>
    exact ⟨Scalar.read?_step ih, Scalar.readBranch?_step ih, Predicate.read?_step ih⟩

theorem Expr.ofJson?_yields (inside : Bool) : Yields (Expr.ofJson? inside) Scalar.Finite :=
  fun v => (readersYield (v.depth + 1)).scalar inside v

theorem Condition.ofJson?_yields (inside : Bool) :
    Yields (Condition.ofJson? inside) Predicate.Finite :=
  fun v => (readersYield (v.depth + 1)).predicate inside v

/-! ## Aggregates -/

theorem Aggregate.ofJson?_yields (inside : Bool) :
    Yields (Aggregate.ofJson? inside) Aggregate.Finite := by
  intro v hv a ha
  obtain ⟨⟨kind, body⟩, hu, ha⟩ := Option.bind_eq_some_iff.mp ha
  have hbody : body.Valid := hv.untag? hu
  dsimp only at ha
  split at ha
  · obtain ⟨r, ho, ha⟩ := Option.bind_eq_some_iff.mp ha
    obtain ⟨o, he, ha⟩ := Option.bind_eq_some_iff.mp ha
    have hfinite := (Expr.ofJson?_yields true).optional (hbody.open? ho) he
    cases o with
    | none =>
      cases ha
      trivial
    | some e =>
      cases ha
      exact hfinite e rfl
  · obtain ⟨r, ho, ha⟩ := Option.bind_eq_some_iff.mp ha
    obtain ⟨n, hn, ha⟩ := Option.bind_eq_some_iff.mp ha
    obtain ⟨d, hd, ha⟩ := Option.bind_eq_some_iff.mp ha
    obtain ⟨fill, hfill, ha⟩ := Option.bind_eq_some_iff.mp ha
    cases ha
    exact ⟨(Expr.ofJson?_yields true).required (hbody.open? ho) hn,
      (Expr.ofJson?_yields true).required (hbody.open? ho) hd,
      float?_yields.withDefault (hbody.open? ho) isFinite_zero hfill⟩
  · obtain ⟨reduction, -, ha⟩ := Option.bind_eq_some_iff.mp ha
    obtain ⟨r, ho, ha⟩ := Option.bind_eq_some_iff.mp ha
    obtain ⟨e, he, ha⟩ := Option.bind_eq_some_iff.mp ha
    cases ha
    exact (Expr.ofJson?_yields true).required (hbody.open? ho) he

end Crosstab
