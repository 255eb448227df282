import Crosstab.Binary64.Decimal
import Crosstab.Binary64.Shortest
import Crosstab.Proofs.Binary64.Rounding
import Mathlib.Tactic.Ring

/-!
# The shortest decimal reads back

The numbers that `roundsTo` admits are those that the reader of decimals rounds to `x`
(`roundMagnitude_of_roundsTo`, `Admits.ofDecimal_eq`), and within its 24 steps `firstGrid` comes to
a grid that is finer than the room above `x`, so that a point of it is admitted (`isSome_onGrid`).
Hence the shortest decimal of a number reads back as the number (`admits_shortest`).
-/

namespace Crosstab.Binary64

variable {x : Binary64}

/-! ## The room around a number -/

theorem bounds_of_roundsTo {scale n : Nat} (h : x.roundsTo scale n = true) :
    (4 * x.magnitude - x.gapBelow) * scale ≤ n ∧ n ≤ (4 * x.magnitude + x.gapAbove) * scale ∧
      (x.significand % 2 = 1 → (4 * x.magnitude - x.gapBelow) * scale < n ∧
        n < (4 * x.magnitude + x.gapAbove) * scale) := by
  unfold roundsTo at h
  dsimp only at h
  split at h
  · next heven =>
    simp only [Bool.and_eq_true, decide_eq_true_eq] at h
    exact ⟨h.1, h.2, fun hodd => by omega⟩
  · simp only [Bool.and_eq_true, decide_eq_true_eq] at h
    exact ⟨Nat.le_of_lt h.1, Nat.le_of_lt h.2, fun _ => h⟩

theorem roundsTo_of_lt {scale n : Nat} (hlow : (4 * x.magnitude - x.gapBelow) * scale < n)
    (hhigh : n < (4 * x.magnitude + x.gapAbove) * scale) : x.roundsTo scale n = true := by
  unfold roundsTo
  dsimp only
  split
  · simp only [Bool.and_eq_true, decide_eq_true_eq]
    exact ⟨Nat.le_of_lt hlow, Nat.le_of_lt hhigh⟩
  · simp only [Bool.and_eq_true, decide_eq_true_eq]
    exact ⟨hlow, hhigh⟩

theorem roundsTo_mul {c : Nat} (hc : 0 < c) (scale n : Nat) :
    x.roundsTo (scale * c) (n * c) = x.roundsTo scale n := by
  unfold roundsTo
  simp only [← Nat.mul_assoc, Nat.mul_le_mul_right_iff hc, Nat.mul_lt_mul_right hc]

/-- Below a power of two the numbers lie twice as close. -/
theorem gapBelow_eq (x : Binary64) :
    (x.significand = 2 ^ 52 ∧ 0 < x.unitExponent ∧ x.gapBelow = 2 ^ x.unitExponent) ∨
      ((x.significand ≠ 2 ^ 52 ∨ x.unitExponent = 0) ∧ x.gapBelow = 2 * 2 ^ x.unitExponent) := by
  unfold gapBelow
  simp only [Nat.pow_eq, Bool.and_eq_true, decide_eq_true_eq]
  by_cases h : x.significand = 2 ^ 52 ∧ 0 < x.unitExponent
  · rw [if_pos h, Nat.one_mul]
    exact .inl ⟨h.1, h.2, rfl⟩
  · rw [if_neg h]
    refine .inr ⟨?_, rfl⟩
    omega

theorem gapAbove_eq (x : Binary64) : x.gapAbove = 2 * 2 ^ x.unitExponent := rfl

theorem magnitude_eq (x : Binary64) : x.magnitude = x.significand * 2 ^ x.unitExponent := rfl

/-! ## Reading a decimal in the room -/

/-- **What is in the room of a number rounds to it.** -/
theorem roundMagnitude_of_roundsTo (hx : x.isFinite = true) {a d : Nat} (hd : 0 < d)
    (h : x.roundsTo d (4 * a) = true) : roundMagnitude a d = x.magnitudeBits := by
  obtain ⟨hlow, hhigh, hodd⟩ := bounds_of_roundsTo h
  have hfinite := magnitudeBits_lt hx
  rw [magnitudeBits_eq] at hfinite ⊢
  have hlt := x.significand_lt
  set s := x.significand with hs
  set D := d * 2 ^ x.unitExponent with hD
  have hpos : 0 < D := Nat.mul_pos hd (Nat.two_pow_pos _)
  have hcentre : 4 * x.magnitude * d = 4 * (s * D) := by rw [magnitude_eq]; ring
  have habove : x.gapAbove * d = 2 * D := by rw [gapAbove_eq]; ring
  rw [Nat.add_mul, hcentre, habove] at hhigh hodd
  rw [Nat.sub_mul, hcentre] at hlow hodd
  have htwice : 2 * s * D = 2 * (s * D) := Nat.mul_assoc 2 s D
  have htop : s * D ≤ (2 ^ 53 - 1) * D := Nat.mul_le_mul_right D (by omega)
  by_cases hbinade : x.unitExponent = 0 ∨ 2 ^ 52 * D ≤ a
  · -- the quotient has the last place of `x`
    have hbelow : x.gapBelow * d ≤ 2 * D := by
      rcases x.gapBelow_eq with ⟨-, -, hgap⟩ | ⟨-, hgap⟩
      · rw [hgap, Nat.mul_comm]
        omega
      · rw [hgap, Nat.mul_assoc, Nat.mul_comm (2 ^ _)]
    have hround : roundHalfEven a D = s := by
      refine roundHalfEven_eq (by omega) (by omega) (fun ho => ?_) hpos
      have := hodd ho
      omega
    exact roundMagnitude_eq hd (by omega) hbinade hround hfinite
  · -- the quotient lies below the power of two that `x` is, where the places are half as wide
    have hnorm : 2 ^ 52 ≤ s := x.le_significand_or.resolve_right fun h => hbinade (.inl h)
    rcases x.gapBelow_eq with ⟨hsig, hexp, hgap⟩ | ⟨hne, hgap⟩
    · obtain ⟨k, hk⟩ : ∃ k, x.unitExponent = k + 1 := ⟨x.unitExponent - 1, by omega⟩
      set E := d * 2 ^ k with hE
      have hhalf : D = 2 * E := by rw [hD, hE, hk, Nat.pow_succ]; ring
      have hbelow : x.gapBelow * d = D := by rw [hgap, Nat.mul_comm]
      have hsD : s * D = 2 ^ 52 * D := by rw [hs, hsig]
      have hround : roundHalfEven a E = 2 ^ 53 :=
        roundHalfEven_eq (by omega) (by omega) (fun ho => by omega) (by omega)
      have hsum : x.unitExponent * 2 ^ 52 + s = k * 2 ^ 52 + 2 ^ 53 := by omega
      rw [hsum] at hfinite ⊢
      exact roundMagnitude_eq hd (by omega) (.inr (by omega)) hround hfinite
    · have hbelow : x.gapBelow * d = 2 * D := by rw [hgap, Nat.mul_assoc, Nat.mul_comm (2 ^ _)]
      have hmore : (2 ^ 52 + 1) * D ≤ s * D := Nat.mul_le_mul_right D (by omega)
      omega

/-! ## Powers of two and ten -/

theorem two_pow_le_ten_pow {m k : Nat} (h : 28 * m ≤ 93 * k) : 2 ^ m ≤ 10 ^ k := by
  refine (Nat.pow_le_pow_iff_left (by decide : 93 ≠ 0)).mp ?_
  calc (2 ^ m) ^ 93 = (2 ^ 93) ^ m := by rw [← Nat.pow_mul, ← Nat.pow_mul, Nat.mul_comm]
    _ ≤ (10 ^ 28) ^ m := Nat.pow_le_pow_left (by decide) m
    _ = 10 ^ (28 * m) := by rw [← Nat.pow_mul]
    _ ≤ 10 ^ (93 * k) := Nat.pow_le_pow_right (by decide) h
    _ = (10 ^ k) ^ 93 := by rw [← Nat.pow_mul, Nat.mul_comm]

theorem ten_pow_le_two_pow {k m : Nat} (h : 10 * k ≤ 3 * m) : 10 ^ k ≤ 2 ^ m := by
  refine (Nat.pow_le_pow_iff_left (by decide : 3 ≠ 0)).mp ?_
  calc (10 ^ k) ^ 3 = (10 ^ 3) ^ k := by rw [← Nat.pow_mul, ← Nat.pow_mul, Nat.mul_comm]
    _ ≤ (2 ^ 10) ^ k := Nat.pow_le_pow_left (by decide) k
    _ = 2 ^ (10 * k) := by rw [← Nat.pow_mul]
    _ ≤ 2 ^ (3 * m) := Nat.pow_le_pow_right (by decide) h
    _ = (2 ^ m) ^ 3 := by rw [← Nat.pow_mul, Nat.mul_comm]

theorem lt_ten_pow_decimalLength (n : Nat) : n < 10 ^ decimalLength n :=
  (Nat.length_toDigits_le_iff (by decide) Nat.length_toDigits_pos).mp (Nat.le_refl _)

theorem ten_pow_decimalLength_le {n : Nat} (h : 0 < n) : 10 ^ (decimalLength n - 1) ≤ n := by
  rcases Nat.eq_zero_or_pos (decimalLength n - 1) with hone | hpos
  · rw [hone]
    exact h
  · refine Nat.le_of_not_lt ?_
    intro hlt
    have hle : decimalLength n ≤ decimalLength n - 1 :=
      (Nat.length_toDigits_le_iff (by decide) hpos).mpr hlt
    omega

/-! ## Decimals in the room -/

/-- The decimal `n * 10 ^ e` is in the room of the number. -/
def Admits (x : Binary64) (n : Nat) (e : Int) : Prop :=
  x.roundsTo (10 ^ (-e).toNat) (n * (Nat.pow 2 1076 * 10 ^ e.toNat)) = true

theorem significand_pos (h : x.isZero = false) : 0 < x.significand := by
  have hne : x.magnitudeBits ≠ 0 := by simpa [isZero] using h
  have heq := x.magnitudeBits_eq
  rcases x.le_significand_or with hle | hzero <;> omega

theorem room_pos (h : x.isZero = false) : 0 < 4 * x.magnitude - x.gapBelow := by
  have hunit := Nat.two_pow_pos x.unitExponent
  have hle : 1 * 2 ^ x.unitExponent ≤ x.magnitude :=
    Nat.mul_le_mul_right _ (significand_pos h)
  rcases x.gapBelow_eq with ⟨-, -, hgap⟩ | ⟨-, hgap⟩ <;> omega

theorem room_lt (x : Binary64) : 4 * x.magnitude + x.gapAbove < 2 ^ (x.unitExponent + 55) := by
  have hunit := Nat.two_pow_pos x.unitExponent
  have hle : x.magnitude ≤ (2 ^ 53 - 1) * 2 ^ x.unitExponent :=
    Nat.mul_le_mul_right _ (by have := x.significand_lt; omega)
  have habove := x.gapAbove_eq
  rw [Nat.pow_add]
  omega

/-- A number below `2 ^ j` has at most `b` digits before the point if `2 ^ j` has. -/
theorem exponent_lt_of_lt {m k u c j b : Nat} (h : 2 ^ c * 10 ^ m < 2 ^ u * 10 ^ k)
    (hu : u ≤ c + j) (hb : 28 * j ≤ 93 * b) : m < b + k := by
  refine Nat.lt_of_not_le fun hle => Nat.lt_irrefl (2 ^ c * 10 ^ m) (Nat.lt_of_lt_of_le h ?_)
  calc 2 ^ u * 10 ^ k ≤ 2 ^ (c + j) * 10 ^ k :=
        Nat.mul_le_mul_right _ (Nat.pow_le_pow_right (by decide) hu)
    _ = 2 ^ c * (2 ^ j * 10 ^ k) := by rw [Nat.pow_add, Nat.mul_assoc]
    _ ≤ 2 ^ c * (10 ^ b * 10 ^ k) :=
        Nat.mul_le_mul_left _ (Nat.mul_le_mul_right _ (two_pow_le_ten_pow hb))
    _ = 2 ^ c * 10 ^ (b + k) := by rw [Nat.pow_add]
    _ ≤ 2 ^ c * 10 ^ m := Nat.mul_le_mul_left _ (Nat.pow_le_pow_right (by decide) hle)

/-- A number above `2 ^ -c` has at most `b` zeros after the point if `2 ^ c` has as many
digits. -/
theorem lt_exponent_of_lt {m k c b : Nat} (h : 10 ^ k < 2 ^ c * 10 ^ m) (hb : 28 * c ≤ 93 * b) :
    k < b + m := by
  refine (Nat.pow_lt_pow_iff_right (by decide : 1 < 10)).mp (Nat.lt_of_lt_of_le h ?_)
  rw [Nat.pow_add]
  exact Nat.mul_le_mul_right _ (two_pow_le_ten_pow hb)

namespace Admits

variable {n : Nat} {e : Int}

theorem pos (hzero : x.isZero = false) (h : x.Admits n e) : 0 < n := by
  obtain ⟨hlow, -, -⟩ := bounds_of_roundsTo h
  generalize 1076 = c at hlow
  have hroom := Nat.mul_pos (room_pos hzero) (Nat.pow_pos (by decide : 0 < 10) (n := (-e).toNat))
  refine Nat.pos_of_ne_zero ?_
  intro hn
  rw [hn, Nat.zero_mul] at hlow
  omega

theorem top_lt (hx : x.isFinite = true) (hzero : x.isZero = false) (h : x.Admits n e) :
    e + decimalLength n ≤ 309 := by
  have hpos := h.pos hzero
  obtain ⟨-, hhigh, -⟩ := bounds_of_roundsTo h
  generalize hc : 1076 = c at hhigh
  have hlt : 2 ^ c * 10 ^ (decimalLength n - 1 + e.toNat)
      < 2 ^ (x.unitExponent + 55) * 10 ^ (-e).toNat := by
    calc 2 ^ c * 10 ^ (decimalLength n - 1 + e.toNat)
        = 10 ^ (decimalLength n - 1) * (2 ^ c * 10 ^ e.toNat) := by rw [Nat.pow_add]; ring
      _ ≤ n * (2 ^ c * 10 ^ e.toNat) := Nat.mul_le_mul_right _ (ten_pow_decimalLength_le hpos)
      _ ≤ (4 * x.magnitude + x.gapAbove) * 10 ^ (-e).toNat := hhigh
      _ < 2 ^ (x.unitExponent + 55) * 10 ^ (-e).toNat :=
        Nat.mul_lt_mul_of_pos_right x.room_lt (Nat.pow_pos (by decide))
  have hexponent := unitExponent_le hx
  have hfinal := exponent_lt_of_lt (j := 1024) (b := 309) hlt (by omega) (by decide)
  omega

theorem lt_top (hzero : x.isZero = false) (h : x.Admits n e) : -324 < e + decimalLength n := by
  obtain ⟨hlow, -, -⟩ := bounds_of_roundsTo h
  generalize hc : 1076 = c at hlow
  have hlt : 10 ^ (-e).toNat < 2 ^ c * 10 ^ (decimalLength n + e.toNat) := by
    calc 10 ^ (-e).toNat ≤ (4 * x.magnitude - x.gapBelow) * 10 ^ (-e).toNat :=
        Nat.le_mul_of_pos_left _ (room_pos hzero)
      _ ≤ n * (2 ^ c * 10 ^ e.toNat) := hlow
      _ < 10 ^ decimalLength n * (2 ^ c * 10 ^ e.toNat) :=
        Nat.mul_lt_mul_of_pos_right (lt_ten_pow_decimalLength n)
          (Nat.mul_pos (Nat.two_pow_pos c) (Nat.pow_pos (by decide)))
      _ = 2 ^ c * 10 ^ (decimalLength n + e.toNat) := by rw [Nat.pow_add]; ring
  have hfinal := lt_exponent_of_lt (b := 324) hlt (by omega)
  omega

/-- **A decimal in the room of a number reads as the number.** -/
theorem ofDecimal_eq (hx : x.isFinite = true) (hzero : x.isZero = false) (h : x.Admits n e) :
    ofDecimal x.negative n e = x := by
  have hpos := h.pos hzero
  have htop := h.top_lt hx hzero
  have hbottom := h.lt_top hzero
  have hrooms : x.roundsTo (Nat.pow 10 (-e).toNat)
      (4 * (n * Nat.pow 10 e.toNat * Nat.pow 2 1074)) = true := by
    have hfour (c k : Nat) (hc : c = k + 2) : n * (Nat.pow 2 c * 10 ^ e.toNat)
        = 4 * (n * Nat.pow 10 e.toNat * Nat.pow 2 k) := by
      simp only [hc, Nat.pow_eq, Nat.pow_add]
      ring
    unfold Admits at h
    generalize hc : 1076 = c at h
    generalize hk : 1074 = k
    rw [hfour c k (by omega)] at h
    exact h
  have hdecimals := roundMagnitude_of_roundsTo (d := Nat.pow 10 (-e).toNat) hx
    (Nat.pow_pos (by decide)) hrooms
  unfold ofDecimal
  dsimp only
  rw [if_neg, if_neg, ofRatio, hdecimals, ofMagnitudeBits_self]
  · omega
  · simp only [Bool.or_eq_true, decide_eq_true_eq]
    omega

/-- A decimal without places after the point may be written with one. -/
theorem shift (h : x.Admits n e) (he : 0 ≤ e) : x.Admits (n * 10 ^ (e.toNat + 1)) (-1) := by
  unfold Admits at h ⊢
  generalize 1076 = c at h ⊢
  have hnone : (-e).toNat = 0 := by omega
  have hscaled : n * 10 ^ (e.toNat + 1) * (Nat.pow 2 c * 10 ^ (-1 : Int).toNat)
      = n * (Nat.pow 2 c * 10 ^ e.toNat) * 10 := by
    rw [show (-1 : Int).toNat = 0 from rfl]
    ring
  rw [hnone] at h
  rw [hscaled, show 10 ^ (-(-1) : Int).toNat = 10 ^ 0 * 10 from rfl, roundsTo_mul (by decide)]
  exact h

end Admits

/-! ## The search for a grid -/

theorem admits_of_onGrid {n : Nat} {e : Int} (h : x.onGrid e = some n) : x.Admits n e := by
  unfold onGrid at h
  unfold Admits
  dsimp only at h
  generalize 1076 = c at h ⊢
  split at h
  · cases h
  · next hbelow _ =>
    cases h
    exact hbelow
  · next habove =>
    cases h
    exact habove
  · next hbelow habove =>
    split at h
    · cases h
      exact hbelow
    · split at h
      · cases h
        exact habove
      · split at h
        · cases h
          exact hbelow
        · cases h
          exact habove

theorem roundsTo_above {c k scale : Nat} (h : Nat.pow 2 c * Nat.pow 10 k < x.gapAbove * scale) :
    x.roundsTo scale ((4 * x.magnitude * scale / (Nat.pow 2 c * Nat.pow 10 k) + 1)
      * (Nat.pow 2 c * Nat.pow 10 k)) = true := by
  have hstep : 0 < Nat.pow 2 c * Nat.pow 10 k :=
    Nat.mul_pos (Nat.two_pow_pos c) (Nat.pow_pos (by decide))
  generalize Nat.pow 2 c * Nat.pow 10 k = step at h hstep ⊢
  have hle : 4 * x.magnitude * scale / step * step ≤ 4 * x.magnitude * scale :=
    Nat.div_mul_le_self _ _
  have hlt : 4 * x.magnitude * scale < (4 * x.magnitude * scale / step + 1) * step :=
    Nat.lt_mul_of_div_lt (Nat.lt_succ_self _) hstep
  have hlow : (4 * x.magnitude - x.gapBelow) * scale ≤ 4 * x.magnitude * scale :=
    Nat.mul_le_mul_right _ (Nat.sub_le _ _)
  refine roundsTo_of_lt (Nat.lt_of_le_of_lt hlow hlt) ?_
  rw [Nat.succ_mul, Nat.add_mul]
  omega

/-- A grid that is finer than the room above the number has a point in the room. -/
theorem isSome_onGrid {e : Int}
    (h : Nat.pow 2 1076 * Nat.pow 10 e.toNat < x.gapAbove * Nat.pow 10 (-e).toNat) :
    (x.onGrid e).isSome = true := by
  have habove := roundsTo_above h
  unfold onGrid
  dsimp only
  split
  · next hfalse => exact absurd (habove.symm.trans hfalse) (by simp)
  · rfl
  · rfl
  · split
    · rfl
    · split
      · rfl
      · split <;> rfl

theorem onGrid_firstGrid {fuel : Nat} {e : Int}
    (h : ∃ k < fuel, (x.onGrid (e - k)).isSome = true) :
    x.onGrid (x.firstGrid fuel e).exponent = some (x.firstGrid fuel e).digits := by
  induction fuel generalizing e with
  | zero =>
    obtain ⟨k, hk, -⟩ := h
    omega
  | succ fuel ih =>
    rw [firstGrid]
    cases hgrid : x.onGrid e with
    | some digits => exact hgrid
    | none =>
      obtain ⟨k, hk, hsome⟩ := h
      obtain ⟨k, rfl⟩ : ∃ j, k = j + 1 := by
        refine ⟨k - 1, ?_⟩
        rcases Nat.eq_zero_or_pos k with rfl | hpos
        · rw [Int.natCast_zero, Int.sub_zero, hgrid] at hsome
          cases hsome
        · omega
      refine ih ⟨k, by omega, ?_⟩
      rw [show e - 1 - (k : Int) = e - ((k + 1 : Nat) : Int) by omega]
      exact hsome

theorem log2_magnitude_le (x : Binary64) : Nat.log2 x.magnitude ≤ x.unitExponent + 52 := by
  rcases Nat.eq_zero_or_pos x.magnitude with hzero | hpos
  · rw [hzero]
    exact Nat.zero_le _
  · have hlt : x.magnitude < 2 ^ (x.unitExponent + 53) := by
      rw [Nat.pow_add, Nat.mul_comm]
      exact Nat.mul_lt_mul_of_pos_right x.significand_lt (Nat.two_pow_pos _)
    exact Nat.lt_succ_iff.mp ((Nat.log2_lt (Nat.ne_of_gt hpos)).mpr hlt)

/-- The last of the grids is finer than the room above the number. -/
theorem lastGrid_fine (hx : x.isFinite = true) :
    Nat.pow 2 1076 * Nat.pow 10 (x.gridAbove - (23 : Nat)).toNat
      < x.gapAbove * Nat.pow 10 (-(x.gridAbove - (23 : Nat))).toNat := by
  have hlog := x.log2_magnitude_le
  have hexponent := unitExponent_le hx
  have hgrid : x.gridAbove - (23 : Nat)
      ≤ ((x.unitExponent : Int) - 1021) * 30103 / 100000 - 21 := by
    unfold gridAbove
    omega
  simp only [Nat.pow_eq]
  rw [gapAbove_eq, ← Nat.pow_succ']
  generalize x.gridAbove - (23 : Nat) = g at hgrid ⊢
  generalize hc : 1076 = c
  generalize x.unitExponent = u at hexponent hgrid ⊢
  rcases Int.lt_or_le g 0 with hneg | hnonneg
  · have hnone : g.toNat = 0 := by omega
    rw [hnone, Nat.pow_zero, Nat.mul_one]
    calc 2 ^ c < 2 ^ (u + 1 + (c - u)) := Nat.pow_lt_pow_right (by decide) (by omega)
      _ = 2 ^ (u + 1) * 2 ^ (c - u) := Nat.pow_add _ _ _
      _ ≤ 2 ^ (u + 1) * 10 ^ (-g).toNat :=
        Nat.mul_le_mul_left _ (two_pow_le_ten_pow (by omega))
  · have hnone : (-g).toNat = 0 := by omega
    rw [hnone, Nat.pow_zero, Nat.mul_one]
    calc 2 ^ c * 10 ^ g.toNat ≤ 2 ^ c * 2 ^ (u - c) :=
        Nat.mul_le_mul_left _ (ten_pow_le_two_pow (by omega))
      _ = 2 ^ (c + (u - c)) := (Nat.pow_add _ _ _).symm
      _ < 2 ^ (u + 1) := Nat.pow_lt_pow_right (by decide) (by omega)

/-- The shortest decimal of a number is in its room. -/
theorem admits_shortest (hx : x.isFinite = true) :
    x.Admits x.shortest.digits x.shortest.exponent := by
  have hfine := lastGrid_fine hx
  have hsome := isSome_onGrid (e := x.gridAbove - (23 : Nat)) hfine
  exact admits_of_onGrid (onGrid_firstGrid ⟨23, by decide, hsome⟩)

end Crosstab.Binary64
