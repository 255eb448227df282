import Crosstab.Expr.Eval
import Crosstab.Proofs.Frame.Rows

/-!
# The meaning of an expression in one row

What a scalar or a predicate means is told row by row here, by rules and without a table: `Means`
gives the cells of a scalar, `Holds` the truth values of a predicate.  A rule mentions the parts
that decide and no others, so the arguments after the first cell that is not null, and the scalars
of branches that were not taken, need not mean anything.

The rules of the operators are on the cells of one row.  That `Cell.operate` and `Cell.safeDivide`
compute them is `operate_eq_ok_iff` and `safeDivide_eq_ok_iff`.
-/

namespace Crosstab

/-! ## Operators -/

/-- A quotient of two cells: the fill where a side is null or the denominator is zero. -/
inductive Quotient (fill : Binary64) : Cell → Cell → Cell → Prop where
  | null {a b : Cell} (h : a = .null ∨ b = .null) : Quotient fill a b (.float fill)
  | zero {a b : Cell} {y : Binary64} (hb : b.number? = some y) (hy : y.isZero = true) :
    Quotient fill a b (.float fill)
  | quotient {a b : Cell} {x y : Binary64} (ha : a.number? = some x) (hb : b.number? = some y)
    (hy : y.isZero = false) : Quotient fill a b (.float (x / y))

/-- The result of an operator on two cells.  A null makes it null, except for division.  Sums,
differences and products of whole numbers are whole where they fit and floats where they do not. -/
inductive Result : BinaryOp → Cell → Cell → Cell → Prop where
  | null {op : BinaryOp} {a b : Cell} (hop : op ≠ .div) (h : a = .null ∨ b = .null) :
    Result op a b .null
  | whole {op : BinaryOp} {a b : Cell} {n : Int64} (h : Cell.wholeResult? op a b = some n) :
    Result op a b (.int n)
  | float {op : BinaryOp} {a b : Cell} {x y : Binary64} (hop : op ≠ .div ∧ op ≠ .concat)
    (h : Cell.wholeResult? op a b = none) (ha : a.number? = some x) (hb : b.number? = some y) :
    Result op a b (.float (Cell.floatResult op x y))
  | div {a b c : Cell} (h : Quotient Binary64.zero a b c) : Result .div a b c
  | concat {a b : Cell} (ha : a ≠ .null) (hb : b ≠ .null) :
    Result .concat a b (.text (a.display ++ b.display))

namespace Cell

theorem isNull_or_iff {a b : Cell} : (a.isNull || b.isNull) = true ↔ a = null ∨ b = null := by
  rw [Bool.or_eq_true, isNull_iff, isNull_iff]

theorem ne_null_of_number? {c : Cell} {x : Binary64} (h : c.number? = some x) : c ≠ null := by
  rintro rfl
  simp [number?] at h

theorem not_null_of_numbers {a b : Cell} {x y : Binary64} (ha : a.number? = some x)
    (hb : b.number? = some y) : ¬(a.isNull || b.isNull) = true := by
  rw [isNull_or_iff, not_or]
  exact ⟨ne_null_of_number? ha, ne_null_of_number? hb⟩

theorem operand_eq_ok_iff {op : BinaryOp} {c : Cell} {x : Binary64} :
    operand op c = .ok x ↔ c.number? = some x := by
  unfold operand
  split
  · next y hy => simp [hy]
  · next h => simp [h, reject]

/-- What `safeDivide` computes. -/
theorem safeDivide_eq_ok_iff {a b c : Cell} {fill : Binary64} :
    safeDivide a b fill = .ok c ↔ Quotient fill a b c := by
  unfold safeDivide
  constructor
  · intro h
    split at h
    · next hnull =>
      obtain rfl : float fill = c := by simpa using h
      exact .null (isNull_or_iff.mp hnull)
    · obtain ⟨y, hy, h⟩ := bind_eq_ok_iff.mp h
      rw [operand_eq_ok_iff] at hy
      split at h
      · next hz =>
        obtain rfl := pure_eq_ok_iff.mp h
        exact .zero hy hz
      · next hz =>
        obtain ⟨x, hx, h⟩ := bind_eq_ok_iff.mp h
        obtain rfl := pure_eq_ok_iff.mp h
        exact .quotient (operand_eq_ok_iff.mp hx) hy (by simpa using hz)
  · intro h
    cases h with
    | null hnull => rw [if_pos (isNull_or_iff.mpr hnull)]
    | zero hb hy =>
      split
      · rfl
      · rw [operand_eq_ok_iff.mpr hb, ok_bind, if_pos hy]
        rfl
    | quotient ha hb hy =>
      rw [if_neg (not_null_of_numbers ha hb), operand_eq_ok_iff.mpr hb, ok_bind, hy,
        operand_eq_ok_iff.mpr ha]
      rfl

/-- Sums, differences and products are computed in one way. -/
theorem operate_eq {op : BinaryOp} (hop : op ≠ .div ∧ op ≠ .concat) (a b : Cell) :
    operate op a b =
      if a.isNull || b.isNull then .ok .null
      else match wholeResult? op a b with
        | some n => .ok (.int n)
        | none => do return .float (floatResult op (← operand op a) (← operand op b)) := by
  cases op with
  | div => exact absurd rfl hop.1
  | concat => exact absurd rfl hop.2
  | _ => rfl

/-- Only sums, differences and products of whole numbers are whole. -/
theorem of_wholeResult? {op : BinaryOp} {a b : Cell} {n : Int64}
    (h : wholeResult? op a b = some n) :
    (op ≠ .div ∧ op ≠ .concat) ∧ ∃ x y, a.number? = some x ∧ b.number? = some y := by
  unfold wholeResult? at h
  split at h
  · next x y =>
    refine ⟨?_, Binary64.ofInt x.toInt, Binary64.ofInt y.toInt, rfl, rfl⟩
    constructor <;> rintro rfl <;> simp at h
  · simp at h

theorem result_of_operate {op : BinaryOp} {a b c : Cell} (hop : op ≠ .div ∧ op ≠ .concat)
    (h : operate op a b = .ok c) : Result op a b c := by
  rw [operate_eq hop] at h
  split at h
  · next hnull =>
    obtain rfl : null = c := by simpa using h
    exact .null hop.1 (isNull_or_iff.mp hnull)
  · split at h
    · next n hn =>
      obtain rfl : int n = c := by simpa using h
      exact .whole hn
    · next hwhole =>
      obtain ⟨x, hx, h⟩ := bind_eq_ok_iff.mp h
      obtain ⟨y, hy, h⟩ := bind_eq_ok_iff.mp h
      obtain rfl := pure_eq_ok_iff.mp h
      exact .float hop hwhole (operand_eq_ok_iff.mp hx) (operand_eq_ok_iff.mp hy)

/-- What `operate` computes. -/
theorem operate_eq_ok_iff {op : BinaryOp} {a b c : Cell} :
    operate op a b = .ok c ↔ Result op a b c := by
  constructor
  · intro h
    cases op with
    | div => exact .div (safeDivide_eq_ok_iff.mp h)
    | concat =>
      simp only [operate] at h
      split at h
      · next hnull =>
        obtain rfl : null = c := by simpa using h
        exact .null (by decide) (isNull_or_iff.mp hnull)
      · next hnull =>
        obtain rfl : text (a.display ++ b.display) = c := by simpa using h
        rw [isNull_or_iff, not_or] at hnull
        exact .concat hnull.1 hnull.2
    | _ => exact result_of_operate (by decide) h
  · intro h
    cases h with
    | null hop hnull =>
      cases op with
      | div => exact absurd rfl hop
      | _ => simp only [operate, isNull_or_iff.mpr hnull, if_true]
    | whole hn =>
      obtain ⟨hop, x, y, hx, hy⟩ := of_wholeResult? hn
      rw [operate_eq hop, if_neg (not_null_of_numbers hx hy), hn]
    | float hop hwhole ha hb =>
      rw [operate_eq hop, if_neg (not_null_of_numbers ha hb), hwhole]
      simp only [operand_eq_ok_iff.mpr ha, operand_eq_ok_iff.mpr hb, ok_bind]
      rfl
    | div hq => exact safeDivide_eq_ok_iff.mpr hq
    | concat ha hb => simp [operate, isNull, ha, hb]

end Cell

/-! ## Expressions -/

section

variable {κ : Type} (C : NamedCells → κ → Truth → Prop) (row : NamedCells)

mutual

/-- The cell of a scalar in a row; `C` says what clauses hold in a row. -/
inductive Scalar.Means : Scalar κ → Cell → Prop where
  | column {name : String} {c : Cell} (h : (name, c) ∈ row) : Scalar.Means (.column name) c
  | literal {c : Cell} : Scalar.Means (.literal c) c
  | binary {op : BinaryOp} {l r : Scalar κ} {a b c : Cell} (hl : Scalar.Means l a)
    (hr : Scalar.Means r b) (h : Result op a b c) : Scalar.Means (.binary op l r) c
  | safeDiv {n d : Scalar κ} {fill : Binary64} {a b c : Cell} (hn : Scalar.Means n a)
    (hd : Scalar.Means d b) (h : Quotient fill a b c) : Scalar.Means (.safeDiv n d fill) c
  | coalesce {args : List (Scalar κ)} {c : Cell} (h : Scalar.FirstOf args c) :
    Scalar.Means (.coalesce args) c
  | caseWhen {branches : List (Predicate κ × Scalar κ)} {otherwise : Option (Scalar κ)} {c : Cell}
    (h : Scalar.CaseOf branches otherwise c) : Scalar.Means (.caseWhen branches otherwise) c

/-- The first cell of some scalars that is not null. -/
inductive Scalar.FirstOf : List (Scalar κ) → Cell → Prop where
  | none : Scalar.FirstOf [] .null
  | here {e : Scalar κ} {rest : List (Scalar κ)} {c : Cell} (h : Scalar.Means e c)
    (hc : c ≠ .null) : Scalar.FirstOf (e :: rest) c
  | later {e : Scalar κ} {rest : List (Scalar κ)} {c : Cell} (h : Scalar.Means e .null)
    (hrest : Scalar.FirstOf rest c) : Scalar.FirstOf (e :: rest) c

/-- The cell of the first branch whose predicate is true, or else the default. -/
inductive Scalar.CaseOf : List (Predicate κ × Scalar κ) → Option (Scalar κ) → Cell → Prop where
  | null : Scalar.CaseOf [] .none .null
  | default {e : Scalar κ} {c : Cell} (h : Scalar.Means e c) : Scalar.CaseOf [] (some e) c
  | taken {p : Predicate κ} {e : Scalar κ} {rest : List (Predicate κ × Scalar κ)}
    {otherwise : Option (Scalar κ)} {c : Cell} (hp : Predicate.Holds p (some true))
    (he : Scalar.Means e c) : Scalar.CaseOf ((p, e) :: rest) otherwise c
  | left {p : Predicate κ} {e : Scalar κ} {rest : List (Predicate κ × Scalar κ)}
    {otherwise : Option (Scalar κ)} {c : Cell} {t : Truth} (hp : Predicate.Holds p t)
    (ht : t ≠ some true) (hrest : Scalar.CaseOf rest otherwise c) :
    Scalar.CaseOf ((p, e) :: rest) otherwise c

/-- The truth value of a predicate in a row. -/
inductive Predicate.Holds : Predicate κ → Truth → Prop where
  | compare {op : Comparison} {l r : Scalar κ} {a b : Cell} (hl : Scalar.Means l a)
    (hr : Scalar.Means r b) : Predicate.Holds (.compare op l r) (Cell.satisfies op a b)
  | member {e : Scalar κ} {values : List Cell} {c : Cell} (he : Scalar.Means e c) :
    Predicate.Holds (.member e values) (c.memberOf values)
  | range {e : Scalar κ} {low high : Cell} {bounds : Bounds} {c : Cell} (he : Scalar.Means e c) :
    Predicate.Holds (.range e low high bounds) (c.inRange low high bounds)
  | isNull {e : Scalar κ} {c : Cell} (he : Scalar.Means e c) :
    Predicate.Holds (.isNull e) (some c.isNull)
  | join {op : Connective} {l r : Predicate κ} {s t : Truth} (hl : Predicate.Holds l s)
    (hr : Predicate.Holds r t) :
    Predicate.Holds (.join op l r) (Truth.join op s t)
  | not {p : Predicate κ} {t : Truth} (hp : Predicate.Holds p t) : Predicate.Holds (.not p) t.not
  | like {e pattern : Scalar κ} {ignoreCase negated : Bool} {c d : Cell} {t : Truth}
    (he : Scalar.Means e c) (hpattern : Scalar.Means pattern d)
    (h : c.matchesPattern (fun s => Pattern.compileLike s ignoreCase) d negated = .ok t) :
    Predicate.Holds (.like e pattern ignoreCase negated) t
  | regex {e pattern : Scalar κ} {flags normal : String} {negated : Bool} {c d : Cell} {t : Truth}
    (hflags : Pattern.normalFlags flags = .ok normal)
    (he : Scalar.Means e c) (hpattern : Scalar.Means pattern d)
    (h : c.matchesPattern (fun s => Pattern.compile s normal) d negated = .ok t) :
    Predicate.Holds (.regex e pattern flags negated) t
  | clause {c : κ} {t : Truth} (h : C row c t) : Predicate.Holds (.clause c) t

end

end

/-- In a row no clause of a plain condition holds, since there is none. -/
def NoClauseHolds (_ : NamedCells) (c : Empty) (_ : Truth) : Prop := nomatch c

/-- A clause has the truth value of the predicate that it stands for. -/
def Clause.Holds (row : NamedCells) (c : Clause) (t : Truth) : Prop :=
  ∃ p, c.parsed = .ok p ∧ Predicate.Holds NoClauseHolds row p t

end Crosstab
