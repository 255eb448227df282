import Crosstab.Binary64.Arith
import Mathlib.Algebra.Order.Ring.Nat

/-!
# Rounding to binary numbers
-/

namespace Crosstab.Binary64

/-! ## Bits -/

theorem word_ofMagnitudeBits (negative : Bool) {m : Nat} (h : m < 2 ^ 63) :
    (ofMagnitudeBits negative m).word = (if negative then 2 ^ 63 else 0) + m := by
  have hlt : (if negative then 2 ^ 63 else 0) + m < 2 ^ 64 := by split <;> omega
  simp only [ofMagnitudeBits, word]
  rw [UInt64.toNat_ofNat']
  exact Nat.mod_eq_of_lt hlt

theorem magnitudeBits_ofMagnitudeBits (negative : Bool) {m : Nat} (h : m < 2 ^ 63) :
    (ofMagnitudeBits negative m).magnitudeBits = m := by
  rw [magnitudeBits, word_ofMagnitudeBits negative h]
  simp only [Nat.pow_eq]
  split <;> omega

theorem negative_ofMagnitudeBits (negative : Bool) {m : Nat} (h : m < 2 ^ 63) :
    (ofMagnitudeBits negative m).negative = negative := by
  rw [Binary64.negative, word_ofMagnitudeBits negative h]
  cases negative
  · exact decide_eq_false (by simpa using h)
  · exact decide_eq_true (Nat.le_add_right _ m)

theorem neg_ofMagnitudeBits {m : Nat} (h : m < 2 ^ 63) :
    -ofMagnitudeBits false m = ofMagnitudeBits true m := by
  show neg _ = _
  rw [neg, negative_ofMagnitudeBits false h, magnitudeBits_ofMagnitudeBits false h]
  rfl

theorem ofMagnitudeBits_self (x : Binary64) : ofMagnitudeBits x.negative x.magnitudeBits = x := by
  have hword : x.word < 2 ^ 64 := x.bits.toNat_lt
  have hsum : (if x.negative = true then Nat.pow 2 63 else 0) + x.magnitudeBits = x.word := by
    simp only [negative, magnitudeBits, Nat.pow_eq, decide_eq_true_eq]
    split <;> omega
  rw [ofMagnitudeBits, hsum, word, UInt64.ofNat_toNat]

/-! ## Fields -/

theorem infinityBits_eq : infinityBits = 2047 * 2 ^ 52 := rfl

theorem infinityBits_lt : infinityBits < 2 ^ 63 := by decide

theorem magnitudeBits_lt {x : Binary64} (h : x.isFinite = true) : x.magnitudeBits < infinityBits :=
  of_decide_eq_true h

/-- The magnitude bits are the significand, and a step of `2 ^ 52` for every doubling of the
unit. -/
theorem magnitudeBits_eq (x : Binary64) :
    x.magnitudeBits = x.unitExponent * 2 ^ 52 + x.significand := by
  unfold unitExponent significand
  simp only [Nat.pow_eq]
  split <;> omega

theorem significand_lt (x : Binary64) : x.significand < 2 ^ 53 := by
  unfold significand
  simp only [Nat.pow_eq]
  split <;> omega

/-- A significand without the hidden bit belongs to the smallest unit. -/
theorem le_significand_or (x : Binary64) : 2 ^ 52 ≤ x.significand ∨ x.unitExponent = 0 := by
  unfold unitExponent significand
  simp only [Nat.pow_eq]
  split <;> omega

theorem unitExponent_le {x : Binary64} (h : x.isFinite = true) : x.unitExponent ≤ 2045 := by
  have hlt := magnitudeBits_lt h
  rw [magnitudeBits_eq, infinityBits_eq] at hlt
  rcases x.le_significand_or with hle | hzero <;> omega

/-! ## The nearest whole number -/

/-- What lies within half a unit of `n` rounds to `n`, and at half a unit it does if `n` is
even. -/
theorem roundHalfEven_eq {a d n : Nat} (hlow : 2 * n * d ≤ 2 * a + d)
    (hhigh : 2 * a ≤ 2 * n * d + d)
    (hodd : n % 2 = 1 → 2 * n * d < 2 * a + d ∧ 2 * a < 2 * n * d + d) (hd : 0 < d) :
    roundHalfEven a d = n := by
  have hdiv : a / d * d + a % d = a := by
    rw [Nat.mul_comm]
    exact Nat.div_add_mod a d
  have hmod : a % d < d := Nat.mod_lt a hd
  have hnd : 2 * n * d = 2 * (n * d) := Nat.mul_assoc 2 n d
  have hle : a / d ≤ n := by
    refine Nat.lt_succ_iff.mp ((Nat.div_lt_iff_lt_mul hd).mpr ?_)
    rw [Nat.succ_mul]
    omega
  have hge : n ≤ a / d + 1 := by
    have htwo : (a / d + 2) * d = a / d * d + 2 * d := Nat.add_mul _ _ _
    have hlt : n < a / d + 2 := Nat.lt_of_mul_lt_mul_right (a := d) (by omega)
    exact Nat.lt_succ_iff.mp hlt
  unfold roundHalfEven
  dsimp only
  rcases Nat.lt_or_ge (a / d) n with hlt | hge'
  · obtain rfl : n = a / d + 1 := by omega
    have hsucc : (a / d + 1) * d = a / d * d + d := Nat.succ_mul _ _
    split
    · omega
    · split
      · rfl
      · split <;> omega
  · obtain rfl : n = a / d := by omega
    split
    · rfl
    · split
      · omega
      · split <;> omega

/-- The exponent of the last place: the quotient has a place `2 ^ (k + 52)` in front, or `k` is
the smallest. -/
theorem log2_sub_eq {q k : Nat} (hlt : q < 2 ^ (k + 53)) (hle : k = 0 ∨ 2 ^ (k + 52) ≤ q) :
    Nat.log2 q - 52 = k := by
  rcases Nat.eq_zero_or_pos q with rfl | hpos
  · have := Nat.two_pow_pos (k + 52)
    rw [Nat.log2_zero]
    omega
  · have hhigh : Nat.log2 q < k + 53 := (Nat.log2_lt (Nat.ne_of_gt hpos)).mpr hlt
    rcases hle with rfl | hle
    · omega
    · have hlow : k + 52 ≤ Nat.log2 q := (Nat.le_log2 (Nat.ne_of_gt hpos)).mpr hle
      omega

/-! ## Rounded magnitudes -/

theorem roundHalfEven_le (a d : Nat) : roundHalfEven a d ≤ a / d + 1 := by
  unfold roundHalfEven
  dsimp only
  split
  · exact Nat.le_succ _
  · split
    · exact Nat.le_refl _
    · split
      · exact Nat.le_succ _
      · exact Nat.le_refl _

theorem roundMagnitude_le_infinityBits (a d : Nat) : roundMagnitude a d ≤ infinityBits :=
  Nat.min_le_right _ _

theorem magnitudeBits_ofRatio (negative : Bool) (a d : Nat) :
    (ofRatio negative a d).magnitudeBits = roundMagnitude a d :=
  magnitudeBits_ofMagnitudeBits negative
    (Nat.lt_of_le_of_lt (roundMagnitude_le_infinityBits a d) infinityBits_lt)

/-! ## The nearest number -/

/-- The magnitude bits, put together from the exponent of the last place and the whole number of
last places. -/
theorem roundMagnitude_eq {a d k n : Nat} (hd : 0 < d) (hlt : a < 2 ^ 53 * (d * 2 ^ k))
    (hle : k = 0 ∨ 2 ^ 52 * (d * 2 ^ k) ≤ a) (hround : roundHalfEven a (d * 2 ^ k) = n)
    (hfinite : k * 2 ^ 52 + n < infinityBits) : roundMagnitude a d = k * 2 ^ 52 + n := by
  have hshift : Nat.log2 (a / d) - 52 = k := by
    refine log2_sub_eq ?_ (hle.imp_right fun h => ?_)
    · rw [Nat.div_lt_iff_lt_mul hd, Nat.pow_add, Nat.mul_comm (2 ^ k), Nat.mul_assoc,
        Nat.mul_comm (2 ^ k)]
      exact hlt
    · rw [Nat.le_div_iff_mul_le hd, Nat.pow_add, Nat.mul_comm (2 ^ k), Nat.mul_assoc,
        Nat.mul_comm (2 ^ k)]
      exact h
  unfold roundMagnitude
  simp only [hshift, Nat.pow_eq, hround]
  exact Nat.min_eq_left (Nat.le_of_lt hfinite)

/-! ## Whole numbers -/

/-- With the shift that is chosen for it, a quotient has at most 53 binary digits. -/
theorem div_shifted_lt (a d : Nat) :
    a / (d * 2 ^ (Nat.log2 (a / d) - 52)) < 2 ^ 53 := by
  have hquotient : a / d < 2 ^ (Nat.log2 (a / d) - 52 + 53) := by
    refine Nat.lt_of_lt_of_le (Nat.lt_log2_self (n := a / d)) ?_
    exact Nat.pow_le_pow_right (by omega) (by omega)
  rw [← Nat.div_div_eq_div_mul, Nat.div_lt_iff_lt_mul (Nat.two_pow_pos _), ← Nat.pow_add,
    Nat.add_comm 53]
  exact hquotient

/-- A quotient with at most 2000 binary digits after the first rounds to a finite number. -/
theorem roundMagnitude_lt {a d : Nat} (h : Nat.log2 (a / d) ≤ 2000) :
    roundMagnitude a d < infinityBits := by
  set shift := Nat.log2 (a / d) - 52 with hshift
  have hscaled : a / (d * 2 ^ shift) < 2 ^ 53 := div_shifted_lt a d
  have hround := roundHalfEven_le a (d * 2 ^ shift)
  have hle : shift * 2 ^ 52 + roundHalfEven a (d * 2 ^ shift) < infinityBits := by
    rw [infinityBits_eq]
    have : shift ≤ 1948 := by omega
    omega
  exact Nat.lt_of_le_of_lt (Nat.min_le_left _ _) hle

theorem log2_mul_two_pow_le {m j : Nat} (h : m ≤ 2 ^ j) (k : Nat) :
    Nat.log2 (m * 2 ^ k) ≤ j + k := by
  rcases Nat.eq_zero_or_pos m with rfl | hpos
  · rw [Nat.zero_mul]
    exact Nat.zero_le _
  · have hle : m * 2 ^ k ≤ 2 ^ (j + k) := by
      rw [Nat.pow_add]
      exact Nat.mul_le_mul_right _ h
    have hlt : 2 ^ (j + k) < 2 ^ (j + k + 1) := Nat.pow_lt_pow_right (by omega) (by omega)
    have hne : m * 2 ^ k ≠ 0 :=
      Nat.mul_ne_zero (Nat.ne_of_gt hpos) (Nat.ne_of_gt (Nat.two_pow_pos k))
    exact Nat.lt_succ_iff.mp ((Nat.log2_lt hne).mpr (Nat.lt_of_le_of_lt hle hlt))

theorem roundMagnitude_mul_two_pow_lt {m j k : Nat} (h : m ≤ 2 ^ j) (hk : j + k ≤ 2000) :
    roundMagnitude (m * Nat.pow 2 k) 1 < infinityBits := by
  refine roundMagnitude_lt ?_
  rw [Nat.div_one, Nat.pow_eq]
  exact Nat.le_trans (log2_mul_two_pow_le h k) hk

/-- Whole numbers of 64 bits are finite. -/
theorem isFinite_ofInt {n : Int} (h : n.natAbs ≤ 2 ^ 64) : (ofInt n).isFinite = true := by
  rw [isFinite, ofInt, magnitudeBits_ofRatio, decide_eq_true_eq]
  generalize hk : 1074 = k
  exact roundMagnitude_mul_two_pow_lt h (by omega)

end Crosstab.Binary64
