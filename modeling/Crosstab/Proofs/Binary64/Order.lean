import Crosstab.Proofs.Binary64.Rounding

/-!
# Rounding keeps the order

A whole number is compared with a float by the float that it rounds to.  A larger whole number never
rounds to a smaller float (`numericKey_ofInt_mono`), and only zero rounds to a zero
(`numericKey_ofInt_eq_zero_iff`), but different whole numbers may round to one float.

The total order of floats and the numeric comparison go by keys that differ in little: the total
order tells the two zeros apart (`zeros_of_totalKey_lt`) and has places for the NaNs, past the
infinities of their sign (`totalKey_le_iff_of_isNaN_left`, `totalKey_le_iff_of_isNaN_right`).
-/

namespace Crosstab.Binary64

/-! ## The nearest whole number -/

/-- A quotient is rounded up past the middle, and at the middle if that gives an even number. -/
theorem roundHalfEven_eq_add (a d : Nat) : roundHalfEven a d =
    a / d + if d < 2 * (a % d) ∨ 2 * (a % d) = d ∧ a / d % 2 = 1 then 1 else 0 := by
  unfold roundHalfEven
  dsimp only
  split_ifs <;> omega

theorem le_roundHalfEven (a d : Nat) : a / d ≤ roundHalfEven a d := by
  rw [roundHalfEven_eq_add]
  exact Nat.le_add_right _ _

/-- A larger numerator rounds to no smaller whole number. -/
theorem roundHalfEven_mono {a b : Nat} (h : a ≤ b) (d : Nat) :
    roundHalfEven a d ≤ roundHalfEven b d := by
  have hquotient : a / d ≤ b / d := Nat.div_le_div_right h
  by_cases hsame : a / d = b / d
  · -- between two whole numbers the remainders decide
    have hrest : a % d ≤ b % d := by
      have ha := Nat.div_add_mod a d
      have hb := Nat.div_add_mod b d
      rw [hsame] at ha
      omega
    rw [roundHalfEven_eq_add, roundHalfEven_eq_add, hsame]
    split_ifs <;> omega
  · calc roundHalfEven a d
      _ ≤ a / d + 1 := roundHalfEven_le a d
      _ ≤ b / d := by omega
      _ ≤ roundHalfEven b d := le_roundHalfEven b d

/-! ## The nearest number -/

/-- Where the shift is not zero, the quotient has all of its 53 binary digits. -/
theorem le_div_shifted {a d : Nat} (h : 0 < Nat.log2 (a / d) - 52) :
    2 ^ 52 ≤ a / (d * 2 ^ (Nat.log2 (a / d) - 52)) := by
  have hne : a / d ≠ 0 := by
    intro hzero
    rw [hzero, Nat.log2_zero] at h
    omega
  have hquotient : 2 ^ (52 + (Nat.log2 (a / d) - 52)) ≤ a / d :=
    (Nat.le_log2 hne).mp (by omega)
  rw [← Nat.div_div_eq_div_mul, Nat.le_div_iff_mul_le (Nat.two_pow_pos _), ← Nat.pow_add]
  exact hquotient

/-- A larger numerator rounds to no smaller number. -/
theorem roundMagnitude_mono {a b : Nat} (h : a ≤ b) (d : Nat) :
    roundMagnitude a d ≤ roundMagnitude b d := by
  have hquotient : a / d ≤ b / d := Nat.div_le_div_right h
  have hlog : Nat.log2 (a / d) ≤ Nat.log2 (b / d) := by
    by_cases hzero : a / d = 0
    · rw [hzero, Nat.log2_zero]
      exact Nat.zero_le _
    · have hpos : b / d ≠ 0 := fun hb => hzero (Nat.le_zero.mp (hb ▸ hquotient))
      exact (Nat.le_log2 hpos).mpr ((Nat.log2_self_le hzero).trans hquotient)
  have hdigits := div_shifted_lt a d
  have hround := roundHalfEven_le a (d * 2 ^ (Nat.log2 (a / d) - 52))
  unfold roundMagnitude
  simp only [Nat.pow_eq]
  refine min_le_min_right _ ?_
  by_cases hshift : Nat.log2 (a / d) - 52 = Nat.log2 (b / d) - 52
  · rw [hshift]
    exact Nat.add_le_add_left (roundHalfEven_mono h _) _
  · -- a larger shift alone makes up for all 53 digits
    have hfull := (le_div_shifted (a := b) (d := d) (by omega)).trans (le_roundHalfEven b _)
    omega

/-- A quotient of at least one unit does not round to zero. -/
theorem roundMagnitude_pos {a d : Nat} (hd : 0 < d) (h : d ≤ a) : 0 < roundMagnitude a d := by
  have hquotient : 0 < a / d := Nat.div_pos h hd
  have hround := le_roundHalfEven a (d * 2 ^ (Nat.log2 (a / d) - 52))
  unfold roundMagnitude
  simp only [Nat.pow_eq]
  refine lt_min ?_ (by decide)
  by_cases hshift : Nat.log2 (a / d) - 52 = 0
  · rw [hshift, Nat.pow_zero, Nat.mul_one] at hround ⊢
    omega
  · omega

/-! ## Whole numbers -/

theorem numericKey_ofMagnitudeBits (negative : Bool) {m : Nat} (h : m < 2 ^ 63) :
    (ofMagnitudeBits negative m).numericKey = if negative then -(m : Int) else m := by
  rw [numericKey, negative_ofMagnitudeBits negative h, magnitudeBits_ofMagnitudeBits negative h]

/-- The magnitude bits of a whole number. -/
def wholeMagnitude (n : Nat) : Nat := roundMagnitude (n * Nat.pow 2 1074) 1

theorem numericKey_ofInt (n : Int) :
    (ofInt n).numericKey = if n < 0 then -(wholeMagnitude n.natAbs : Int)
      else wholeMagnitude n.natAbs := by
  have hlt : wholeMagnitude n.natAbs < 2 ^ 63 :=
    Nat.lt_of_le_of_lt (roundMagnitude_le_infinityBits _ 1) infinityBits_lt
  have hkey := numericKey_ofMagnitudeBits (decide (n < 0)) hlt
  simp only [decide_eq_true_eq] at hkey
  exact hkey

theorem wholeMagnitude_mono {m n : Nat} (h : m ≤ n) : wholeMagnitude m ≤ wholeMagnitude n :=
  roundMagnitude_mono (Nat.mul_le_mul_right _ h) 1

theorem wholeMagnitude_pos {n : Nat} (h : 0 < n) : 0 < wholeMagnitude n := by
  unfold wholeMagnitude
  generalize 1074 = k
  exact roundMagnitude_pos Nat.one_pos (Nat.mul_pos h (Nat.two_pow_pos k))

/-- **Rounding keeps the order**: a larger whole number rounds to no smaller float. -/
theorem numericKey_ofInt_mono {m n : Int} (h : m ≤ n) :
    (ofInt m).numericKey ≤ (ofInt n).numericKey := by
  rw [numericKey_ofInt, numericKey_ofInt]
  by_cases hm : m < 0
  · by_cases hn : n < 0
    · rw [if_pos hm, if_pos hn]
      have hmagnitude := wholeMagnitude_mono (m := n.natAbs) (n := m.natAbs) (by omega)
      omega
    · rw [if_pos hm, if_neg hn]
      omega
  · have hn : ¬n < 0 := by omega
    rw [if_neg hm, if_neg hn]
    have hmagnitude := wholeMagnitude_mono (m := m.natAbs) (n := n.natAbs) (by omega)
    omega

/-- Only zero rounds to a zero. -/
theorem numericKey_ofInt_eq_zero_iff {n : Int} : (ofInt n).numericKey = 0 ↔ n = 0 := by
  rw [numericKey_ofInt]
  constructor
  · intro hkey
    by_contra hne
    have hpos := wholeMagnitude_pos (n := n.natAbs) (by omega)
    split at hkey <;> omega
  · rintro rfl
    have hzero : wholeMagnitude 0 = 0 := by
      unfold wholeMagnitude
      generalize 1074 = k
      rw [Nat.zero_mul]
      decide
    rw [if_neg (lt_irrefl 0), Int.natAbs_zero, hzero]
    rfl

theorem isNaN_ofInt (n : Int) : (ofInt n).isNaN = false := by
  rw [isNaN, ofInt, magnitudeBits_ofRatio, decide_eq_false_iff_not]
  exact Nat.not_lt.mpr (roundMagnitude_le_infinityBits _ 1)

/-! ## The total order -/

/-- The numeric comparison and the total order disagree at most about two zeros. -/
theorem numericKey_le_of_totalKey_le {x y : Binary64} (h : x.totalKey ≤ y.totalKey) :
    x.numericKey ≤ y.numericKey := by
  unfold totalKey numericKey at *
  cases hx : x.negative <;> cases hy : y.negative <;> simp only [hx, hy] at h ⊢ <;> simp at h ⊢ <;>
    omega

/-- Where the total order tells numbers of one place apart, they are the two zeros. -/
theorem zeros_of_totalKey_lt {x y : Binary64} (hkey : x.numericKey = y.numericKey)
    (hlt : y.totalKey < x.totalKey) : x = ofMagnitudeBits false 0 ∧ y = ofMagnitudeBits true 0 := by
  have hparts : (x.negative = false ∧ x.magnitudeBits = 0) ∧
      (y.negative = true ∧ y.magnitudeBits = 0) := by
    unfold totalKey at hlt
    unfold numericKey at hkey
    cases hx : x.negative <;> cases hy : y.negative <;> simp [hx, hy] at hlt hkey ⊢ <;> omega
  obtain ⟨⟨hx, hx'⟩, hy, hy'⟩ := hparts
  rw [← ofMagnitudeBits_self x, ← ofMagnitudeBits_self y, hx, hx', hy, hy']
  exact ⟨rfl, rfl⟩

/-- A NaN is before the numbers if it is negative, and else after them. -/
theorem totalKey_le_iff_of_isNaN_left {x y : Binary64} (hx : x.isNaN = true)
    (hy : y.isNaN = false) : x.totalKey ≤ y.totalKey ↔ x.negative = true := by
  have hmagnitude : y.magnitudeBits < x.magnitudeBits := by
    have hx' : infinityBits < x.magnitudeBits := of_decide_eq_true hx
    have hy' : ¬infinityBits < y.magnitudeBits := of_decide_eq_false hy
    omega
  unfold totalKey
  cases x.negative <;> cases y.negative <;> simp <;> omega

theorem totalKey_le_iff_of_isNaN_right {x y : Binary64} (hx : x.isNaN = false)
    (hy : y.isNaN = true) : x.totalKey ≤ y.totalKey ↔ y.negative = false := by
  have hmagnitude : x.magnitudeBits < y.magnitudeBits := by
    have hx' : ¬infinityBits < x.magnitudeBits := of_decide_eq_false hx
    have hy' : infinityBits < y.magnitudeBits := of_decide_eq_true hy
    omega
  unfold totalKey
  cases x.negative <;> cases y.negative <;> simp <;> omega

end Crosstab.Binary64
