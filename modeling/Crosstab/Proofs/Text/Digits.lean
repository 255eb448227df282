import Crosstab.Binary64.Decimal
import Crosstab.Text.CharClass
import Mathlib.Algebra.Order.Ring.Nat

/-!
# Runs of digits

A run of digits is read to its end, whatever follows, as long as it is no digit
(`takeWhile_isDigit_append`), and its value is the number that was written (`digitsValue_toDigits`),
also with zeros in front (`digitsValue_zeros_append`).
-/

namespace Crosstab.Text

/-- The text is made of digits. -/
def AllDigits (cs : List Char) : Prop := ∀ c ∈ cs, c.isDigit = true

/-- The text does not go on with a digit. -/
def NoDigitAhead (cs : List Char) : Prop := ∀ c ∈ cs.head?, c.isDigit = false

/-! ## Where a run of digits ends -/

theorem noDigitAhead_nil : NoDigitAhead [] := by simp [NoDigitAhead]

theorem noDigitAhead_cons {c : Char} {cs : List Char} (h : c.isDigit = false) :
    NoDigitAhead (c :: cs) := by simp [NoDigitAhead, h]

theorem NoDigitAhead.take {cs : List Char} (h : NoDigitAhead cs) (n : Nat) :
    NoDigitAhead (cs.take n) := by
  cases n with
  | zero => exact noDigitAhead_nil
  | succ n => cases cs with
    | nil => exact h
    | cons c cs => simpa [NoDigitAhead] using h

theorem NoDigitAhead.takeWhile_eq {cs : List Char} (h : NoDigitAhead cs) :
    cs.takeWhile Char.isDigit = [] := by
  cases cs with
  | nil => rfl
  | cons c cs => rw [List.takeWhile_cons, h c rfl]; rfl

theorem NoDigitAhead.dropWhile_eq {cs : List Char} (h : NoDigitAhead cs) :
    cs.dropWhile Char.isDigit = cs := by
  cases cs with
  | nil => rfl
  | cons c cs => rw [List.dropWhile_cons, h c rfl]; rfl

theorem takeWhile_isDigit_append {ds rest : List Char} (hds : AllDigits ds)
    (hrest : NoDigitAhead rest) : (ds ++ rest).takeWhile Char.isDigit = ds := by
  rw [List.takeWhile_append_of_pos hds, hrest.takeWhile_eq, List.append_nil]

theorem dropWhile_isDigit_append {ds rest : List Char} (hds : AllDigits ds)
    (hrest : NoDigitAhead rest) : (ds ++ rest).dropWhile Char.isDigit = rest := by
  rw [List.dropWhile_append_of_pos hds, hrest.dropWhile_eq]

/-! ## Digits of a number -/

theorem allDigits_toDigits (n : Nat) : AllDigits (Nat.toDigits 10 n) :=
  fun _ hc => Nat.isDigit_of_mem_toDigits (by decide) (by decide) hc

theorem allDigits_append {ds es : List Char} (hds : AllDigits ds) (hes : AllDigits es) :
    AllDigits (ds ++ es) := by
  intro c hc
  rcases List.mem_append.mp hc with hc | hc
  · exact hds c hc
  · exact hes c hc

theorem allDigits_zeros (n : Nat) : AllDigits (List.replicate n '0') := by
  intro c hc
  rw [List.eq_of_mem_replicate hc]
  rfl

/-! ## Values -/

theorem digitsValue_eq (cs : List Char) : Binary64.digitsValue cs = Nat.ofDigitChars 10 cs 0 := by
  simp only [Binary64.digitsValue, Nat.ofDigitChars, Nat.mul_comm]

theorem digitsValue_toDigits (n : Nat) : Binary64.digitsValue (Nat.toDigits 10 n) = n := by
  rw [digitsValue_eq, Nat.ofDigitChars_ten_toDigits]

theorem digitsValue_append (ds es : List Char) :
    Binary64.digitsValue (ds ++ es) =
      10 ^ es.length * Binary64.digitsValue ds + Binary64.digitsValue es := by
  rw [digitsValue_eq, digitsValue_eq, digitsValue_eq, Nat.ofDigitChars_append,
    Nat.ofDigitChars_eq_ofDigitChars_zero]

theorem digitsValue_zeros (n : Nat) : Binary64.digitsValue (List.replicate n '0') = 0 := by
  rw [digitsValue_eq, Nat.ofDigitChars_replicate_zero, Nat.mul_zero]

theorem digitsValue_zeros_append (n : Nat) (ds : List Char) :
    Binary64.digitsValue (List.replicate n '0' ++ ds) = Binary64.digitsValue ds := by
  rw [digitsValue_append, digitsValue_zeros, Nat.mul_zero, Nat.zero_add]

/-! ## Digits and white space -/

theorem toNat_of_isDigit {c : Char} (h : c.isDigit = true) : 48 ≤ c.toNat ∧ c.toNat ≤ 57 := by
  simp only [Char.isDigit, Bool.and_eq_true, decide_eq_true_eq, ge_iff_le, UInt32.le_iff_toNat_le]
    at h
  exact h

theorem isBlank_of_isDigit {c : Char} (h : c.isDigit = true) : isBlank c = false := by
  obtain ⟨hlow, hhigh⟩ := toNat_of_isDigit h
  simp only [isBlank, blankRuns, List.any_cons, List.any_nil, Run.has, Bool.or_false,
    Bool.or_eq_false_iff, Bool.and_eq_false_iff, decide_eq_false_iff_not]
  omega

end Crosstab.Text
