import Crosstab.Proofs.Binary64.Shortest
import Crosstab.Proofs.Text.Digits

/-!
# The text of a number reads back

A `Numeral` is the text of a decimal in parts.  The reader of numerals makes of it the decimal with
all its digits (`Numeral.ofNumeral_chars`), and the text of a finite number is its sign and a
numeral that reads as the number (`exists_numeral_of_isFinite`).
-/

namespace Crosstab.Binary64

open Text

/-! ## Numerals -/

/-- A decimal as text, without a sign. -/
structure Numeral where
  /-- The digits before the point. -/
  whole : List Char
  /-- The digits after the point, if there is a point. -/
  fraction : Option (List Char)
  /-- The exponent, if there is one. -/
  exponent : Option Int

namespace Numeral

/-- The text of a fraction that may be missing. -/
def fractionChars : Option (List Char) → List Char
  | some ds => '.' :: ds
  | none => []

/-- The text of an exponent that may be missing. -/
def exponentChars : Option Int → List Char
  | some e => 'e' :: intChars e
  | none => []

/-- The text of the numeral. -/
def chars (t : Numeral) : List Char :=
  t.whole ++ (fractionChars t.fraction ++ exponentChars t.exponent)

/-- All digits in front of the exponent. -/
def digits (t : Numeral) : List Char := t.whole ++ t.fraction.getD []

/-- The power of ten of the last digit. -/
def scale (t : Numeral) : Int := t.exponent.getD 0 - ((t.fraction.getD []).length : Int)

/-- There are digits before the point, and nothing but digits on either side of it. -/
structure WellFormed (t : Numeral) : Prop where
  whole_ne_nil : t.whole ≠ []
  allDigits_whole : AllDigits t.whole
  allDigits_fraction : ∀ ds ∈ t.fraction, AllDigits ds

variable {t : Numeral}

theorem noDigitAhead_exponentChars (e : Option Int) : NoDigitAhead (exponentChars e) := by
  cases e with
  | none => exact noDigitAhead_nil
  | some e => exact noDigitAhead_cons rfl

theorem noDigitAhead_fractionChars (fraction : Option (List Char)) {cs : List Char}
    (h : NoDigitAhead cs) : NoDigitAhead (fractionChars fraction ++ cs) := by
  cases fraction with
  | none => exact h
  | some ds => exact noDigitAhead_cons rfl

theorem digitChars_eq_cons (n : Nat) :
    ∃ c cs, digitChars n = c :: cs ∧ c.isDigit = true ∧ AllDigits (c :: cs) := by
  have hall := allDigits_toDigits n
  cases hds : digitChars n with
  | nil => exact absurd hds Nat.toDigits_ne_nil
  | cons c cs =>
    have hcons : AllDigits (c :: cs) := hds ▸ hall
    exact ⟨c, cs, rfl, hcons c List.mem_cons_self, hcons⟩

/-! ### Reading a numeral -/

theorem exponent_read (e : Option Int) :
    (match exponentChars e with
      | _ :: '-' :: rest => -(digitsValue (rest.takeWhile Char.isDigit) : Int)
      | _ :: '+' :: rest => digitsValue (rest.takeWhile Char.isDigit)
      | _ :: rest => digitsValue (rest.takeWhile Char.isDigit)
      | [] => 0) = e.getD 0 := by
  have hread (n : Nat) : digitsValue ((digitChars n).takeWhile Char.isDigit) = n := by
    have htake := takeWhile_isDigit_append (allDigits_toDigits n) noDigitAhead_nil
    rw [List.append_nil] at htake
    rw [digitChars, htake, digitsValue_toDigits]
  cases e with
  | none => rfl
  | some e =>
    rw [exponentChars, intChars]
    by_cases hneg : e < 0
    · rw [if_pos hneg]
      simp only [hread, Option.getD_some]
      rw [Int.ofNat_natAbs_of_nonpos (Int.le_of_lt hneg), Int.neg_neg]
    · rw [if_neg hneg]
      obtain ⟨c, cs, hcs, hc, -⟩ := digitChars_eq_cons e.natAbs
      have hvalue := hread e.natAbs
      rw [hcs] at hvalue ⊢
      split
      · next heq =>
        cases heq
        cases hc
      · next heq =>
        cases heq
        cases hc
      · next heq =>
        cases heq
        rw [hvalue, Option.getD_some, Int.natAbs_of_nonneg (Int.not_lt.mp hneg)]
      · next heq => cases heq

/-- A numeral is read as the decimal with all its digits. -/
theorem ofNumeral_chars (ht : t.WellFormed) (negative : Bool) :
    ofNumeral negative t.chars = ofDecimal negative (digitsValue t.digits) t.scale := by
  have hafter := noDigitAhead_exponentChars t.exponent
  have hrest := noDigitAhead_fractionChars t.fraction hafter
  unfold ofNumeral
  dsimp only
  rw [chars, takeWhile_isDigit_append ht.allDigits_whole hrest,
    dropWhile_isDigit_append ht.allDigits_whole hrest]
  rw [digits, scale]
  cases hfraction : t.fraction with
  | none =>
    cases hexponent : t.exponent with
    | none => rfl
    | some e =>
      exact congrArg (fun n : Int => ofDecimal negative (digitsValue (t.whole ++ [])) (n - 0))
        (exponent_read (some e))
  | some ds =>
    have hds := ht.allDigits_fraction ds hfraction
    simp only [fractionChars, List.cons_append, takeWhile_isDigit_append hds hafter,
      dropWhile_isDigit_append hds hafter, Option.getD_some]
    exact congrArg (fun n : Int => ofDecimal negative (digitsValue (t.whole ++ ds)) (n - ds.length))
      (exponent_read t.exponent)

end Numeral

/-! ## Layouts -/

/-- The numeral lays out the decimal: its digits are those of `n * 10 ^ e`, possibly with zeros
after them. -/
def Numeral.LaysOut (t : Numeral) (n : Nat) (e : Int) : Prop :=
  (digitsValue t.digits = n ∧ t.scale = e) ∨
    (0 ≤ e ∧ digitsValue t.digits = n * 10 ^ (e.toNat + 1) ∧ t.scale = -1)

/-- A numeral that is more than digits. -/
def Numeral.Fractional (t : Numeral) : Prop := t.fraction.isSome = true ∨ t.exponent.isSome = true

theorem Numeral.Fractional.all_isDigit {t : Numeral} (h : t.Fractional) :
    t.chars.all Char.isDigit = false := by
  rw [List.all_eq_false]
  rcases h with h | h
  · obtain ⟨ds, hds⟩ := Option.isSome_iff_exists.mp h
    exact ⟨'.', by simp [chars, fractionChars, hds], by decide⟩
  · obtain ⟨e, he⟩ := Option.isSome_iff_exists.mp h
    exact ⟨'e', by simp [chars, exponentChars, he], by decide⟩

/-- Digits alone, as a numeral. -/
def Numeral.ofNat (n : Nat) : Numeral := ⟨digitChars n, none, none⟩

theorem Numeral.wellFormed_ofNat (n : Nat) : (ofNat n).WellFormed :=
  ⟨Nat.toDigits_ne_nil, allDigits_toDigits n, fun _ h => nomatch h⟩

theorem Numeral.chars_ofNat (n : Nat) : (ofNat n).chars = digitChars n := List.append_nil _

/-- The characters are a numeral with a point or an exponent that lays out `n * 10 ^ e`. -/
def IsLayout (cs : List Char) (n : Nat) (e : Int) : Prop :=
  ∃ t : Numeral, t.WellFormed ∧ t.Fractional ∧ cs = t.chars ∧ t.LaysOut n e

section

variable {ds : List Char}

/-- Digits, zeros up to the point and a zero behind it. -/
theorem isLayout_zeros (hne : ds ≠ []) (hds : AllDigits ds) {e : Int} (he : 0 ≤ e) :
    IsLayout (ds ++ List.replicate e.toNat '0' ++ ['.', '0']) (digitsValue ds) e := by
  have hpoint : digitsValue ['0'] = 0 := digitsValue_zeros 1
  refine ⟨⟨ds ++ List.replicate e.toNat '0', some ['0'], none⟩,
    ⟨by simp [hne], allDigits_append hds (allDigits_zeros _), ?_⟩, .inl rfl, ?_, .inr ⟨he, ?_, rfl⟩⟩
  · rintro zeros ⟨⟩
    exact allDigits_zeros 1
  · simp [Numeral.chars, Numeral.fractionChars, Numeral.exponentChars]
  · rw [Numeral.digits, Option.getD_some, digitsValue_append, digitsValue_append, hpoint,
      digitsValue_zeros, List.length_singleton, List.length_replicate]
    ring

/-- A point among the digits. -/
theorem isLayout_point (hds : AllDigits ds) {p : Nat} {e : Int} (hp : 0 < p)
    (hpe : (p : Int) = ds.length + e) (he : e ≤ 0) :
    IsLayout (ds.take p ++ '.' :: ds.drop p) (digitsValue ds) e := by
  refine ⟨⟨ds.take p, some (ds.drop p), none⟩, ⟨?_, ?_, ?_⟩, .inl rfl, ?_, .inl ⟨?_, ?_⟩⟩
  · intro hnil
    have hlength := congrArg List.length hnil
    rw [List.length_take, List.length_nil] at hlength
    omega
  · exact fun c hc => hds c (List.mem_of_mem_take hc)
  · rintro after ⟨⟩
    exact fun c hc => hds c (List.mem_of_mem_drop hc)
  · simp [Numeral.chars, Numeral.fractionChars, Numeral.exponentChars]
  · rw [Numeral.digits, Option.getD_some, List.take_append_drop]
  · rw [Numeral.scale, Option.getD_some, List.length_drop, Option.getD_none]
    omega

/-- A zero, the point and zeros in front of the digits. -/
theorem isLayout_leadingZeros (hds : AllDigits ds) {e : Int} (he : ds.length + e ≤ 0) :
    IsLayout ('0' :: '.' :: List.replicate (-(ds.length + e)).toNat '0' ++ ds)
      (digitsValue ds) e := by
  refine ⟨⟨['0'], some (List.replicate (-(ds.length + e)).toNat '0' ++ ds), none⟩,
    ⟨by simp, allDigits_zeros 1, ?_⟩, .inl rfl, ?_, .inl ⟨?_, ?_⟩⟩
  · rintro after ⟨⟩
    exact allDigits_append (allDigits_zeros _) hds
  · simp [Numeral.chars, Numeral.fractionChars, Numeral.exponentChars]
  · have hzero := digitsValue_zeros_append 1
    rw [Numeral.digits, Option.getD_some]
    exact (hzero _).trans (digitsValue_zeros_append _ _)
  · rw [Numeral.scale, Option.getD_some, List.length_append, List.length_replicate,
      Option.getD_none]
    omega

/-- One digit and an exponent. -/
theorem isLayout_digit {c : Char} (hc : AllDigits [c]) (e : Int) :
    IsLayout (c :: 'e' :: intChars e) (digitsValue [c]) e := by
  refine ⟨⟨[c], none, some e⟩, ⟨by simp, hc, ?_⟩, .inr rfl, rfl, .inl ⟨rfl, ?_⟩⟩
  · exact fun ds hds => nomatch hds
  · rw [Numeral.scale, Option.getD_some, Option.getD_none, List.length_nil]
    omega

/-- A point after the first digit, and an exponent. -/
theorem isLayout_scientific {c : Char} (hds : AllDigits (c :: ds)) (e : Int) :
    IsLayout (c :: '.' :: ds ++ 'e' :: intChars (ds.length + e)) (digitsValue (c :: ds)) e := by
  refine ⟨⟨[c], some ds, some (ds.length + e)⟩, ⟨by simp, ?_, ?_⟩, .inl rfl, ?_, .inl ⟨rfl, ?_⟩⟩
  · exact fun b hb => hds b (List.mem_of_mem_take (i := 1) hb)
  · rintro after ⟨⟩
    exact fun b hb => hds b (List.mem_cons_of_mem _ hb)
  · simp [Numeral.chars, Numeral.fractionChars, Numeral.exponentChars]
  · rw [Numeral.scale, Option.getD_some, Option.getD_some]
    omega

end

/-- Every layout of a decimal is a numeral with a point or an exponent. -/
theorem Decimal.isLayout (d : Decimal) : IsLayout d.layout d.digits d.exponent := by
  obtain ⟨c, cs, hcs, -, hall⟩ := Numeral.digitChars_eq_cons d.digits
  have hvalue : digitsValue (c :: cs) = d.digits := hcs ▸ digitsValue_toDigits d.digits
  unfold Decimal.layout
  rw [hcs, ← hvalue]
  dsimp only
  split
  · next h =>
    simp only [Bool.and_eq_true, decide_eq_true_eq] at h
    exact isLayout_zeros (List.cons_ne_nil c cs) hall h.1
  · next hzeros =>
    simp only [Bool.and_eq_true, decide_eq_true_eq] at hzeros
    split
    · next h =>
      simp only [Bool.and_eq_true, decide_eq_true_eq] at h
      have hpoint := Int.toNat_of_nonneg (Int.le_of_lt h.1)
      exact isLayout_point hall (by omega) hpoint (by omega)
    · split
      · next h =>
        simp only [Bool.and_eq_true, decide_eq_true_eq] at h
        exact isLayout_leadingZeros hall h.2
      · cases cs with
        | nil =>
          have hexponent : ([c].length : Int) + d.exponent - 1 = d.exponent := by
            rw [List.length_singleton]
            omega
          rw [hexponent]
          exact isLayout_digit hall d.exponent
        | cons b bs =>
          have hexponent : ((c :: b :: bs).length : Int) + d.exponent - 1
              = (b :: bs).length + d.exponent := by
            rw [List.length_cons]
            omega
          rw [hexponent]
          exact isLayout_scientific hall d.exponent

/-! ## Numbers -/

theorem isNaN_eq_false {x : Binary64} (h : x.isFinite = true) : x.isNaN = false := by
  have hlt := magnitudeBits_lt h
  rw [isNaN, decide_eq_false_iff_not]
  omega

theorem isInfinite_eq_false {x : Binary64} (h : x.isFinite = true) : x.isInfinite = false := by
  have hlt := magnitudeBits_lt h
  rw [isInfinite, beq_eq_false_iff_ne]
  omega

theorem ofDecimal_zero (negative : Bool) (e : Int) :
    ofDecimal negative 0 e = ofMagnitudeBits negative 0 := by
  unfold ofDecimal
  dsimp only
  rw [if_pos]
  simp

/-- A decimal of either sign is read with one magnitude, at most that of the infinities. -/
theorem exists_magnitude (digits : Nat) (exponent : Int) : ∃ m, m ≤ infinityBits ∧
    ∀ negative, ofDecimal negative digits exponent = ofMagnitudeBits negative m := by
  unfold ofDecimal
  dsimp only
  split
  · exact ⟨0, Nat.zero_le _, fun _ => rfl⟩
  · split
    · exact ⟨infinityBits, Nat.le_refl _, fun _ => rfl⟩
    · exact ⟨_, roundMagnitude_le_infinityBits _ _, fun _ => rfl⟩

theorem exists_magnitude_ofNumeral (cs : List Char) : ∃ m, m ≤ infinityBits ∧
    ∀ negative, ofNumeral negative cs = ofMagnitudeBits negative m :=
  exists_magnitude _ _

theorem magnitudeBits_ofNumeral_le (negative : Bool) (cs : List Char) :
    (ofNumeral negative cs).magnitudeBits ≤ infinityBits := by
  obtain ⟨m, hm, hcs⟩ := exists_magnitude_ofNumeral cs
  rwa [hcs, magnitudeBits_ofMagnitudeBits negative (Nat.lt_of_le_of_lt hm infinityBits_lt)]

/-- What is read is never a NaN. -/
theorem isNaN_ofNumeral (negative : Bool) (cs : List Char) :
    (ofNumeral negative cs).isNaN = false :=
  decide_eq_false (Nat.not_lt.mpr (magnitudeBits_ofNumeral_le negative cs))

/-- The sign may be put on after reading. -/
theorem signed_ofNumeral (negative : Bool) (cs : List Char) :
    (if negative then -ofNumeral false cs else ofNumeral false cs) = ofNumeral negative cs := by
  cases negative with
  | false => rw [if_neg Bool.false_ne_true]
  | true =>
    obtain ⟨m, hm, hcs⟩ := exists_magnitude_ofNumeral cs
    rw [if_pos rfl, hcs, hcs, neg_ofMagnitudeBits (Nat.lt_of_le_of_lt hm infinityBits_lt)]

theorem ofDecimal_of_laysOut {x : Binary64} (hx : x.isFinite = true) (hzero : x.isZero = false)
    {t : Numeral} (ht : t.LaysOut x.shortest.digits x.shortest.exponent) :
    ofDecimal x.negative (digitsValue t.digits) t.scale = x := by
  have hadmits := admits_shortest hx
  rcases ht with ⟨hdigits, hscale⟩ | ⟨hnonneg, hdigits, hscale⟩
  · rw [hdigits, hscale]
    exact hadmits.ofDecimal_eq hx hzero
  · rw [hdigits, hscale]
    exact (hadmits.shift hnonneg).ofDecimal_eq hx hzero

/-- **The text of a finite number reads as the number.**  It is a sign and a numeral with a point
or an exponent. -/
theorem exists_numeral_of_isFinite {x : Binary64} (hx : x.isFinite = true) :
    ∃ t : Numeral, t.WellFormed ∧ t.Fractional ∧
      x.chars = (if x.negative then ['-'] else []) ++ t.chars ∧
      ofNumeral x.negative t.chars = x := by
  unfold Binary64.chars
  rw [isNaN_eq_false hx, isInfinite_eq_false hx]
  cases hzero : x.isZero with
  | true =>
    have hbits : x.magnitudeBits = 0 := by simpa [isZero] using hzero
    have ht : (⟨['0'], some ['0'], none⟩ : Numeral).WellFormed := by
      refine ⟨by simp, allDigits_zeros 1, ?_⟩
      rintro ds ⟨⟩
      exact allDigits_zeros 1
    refine ⟨⟨['0'], some ['0'], none⟩, ht, .inl rfl, rfl, ?_⟩
    rw [Numeral.ofNumeral_chars ht]
    have hvalue : digitsValue ['0', '0'] = 0 := digitsValue_zeros 2
    have hself := ofMagnitudeBits_self x
    rw [hbits] at hself
    rw [Numeral.digits, Option.getD_some, List.singleton_append, hvalue, ofDecimal_zero, hself]
  | false =>
    obtain ⟨t, ht, hfractional, hlayout, hlays⟩ := x.shortest.isLayout
    refine ⟨t, ht, hfractional, ?_, ?_⟩
    · rw [hlayout]
      rfl
    · rw [Numeral.ofNumeral_chars ht, ofDecimal_of_laysOut hx hzero hlays]

end Crosstab.Binary64
