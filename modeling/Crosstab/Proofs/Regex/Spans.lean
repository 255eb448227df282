import Crosstab.Regex.Basic
import Mathlib.Data.Nat.Bitwise
import Mathlib.Logic.Function.Iterate

/-!
# What a regular expression matches

`Regex.Spans` says what the forms of a regular expression mean: which parts of a text an expression
matches, from one position to another.  A search computes sets of positions instead, kept as the
bits of numbers.  That is the same (`testBit_ends`), so a search finds a match if and only if there
is one (`matchesIn_iff`).

The one form for which this is not plain is a repetition without an upper bound, which a search
tries a limited number of times.  A match never ends before it starts (`le_of_spans`), so
repetitions that match nothing can be left out, and the others are at most as many as the text has
characters (`Repeated.shorten`).
-/

namespace Crosstab

/-! ## Meaning -/

/-- A relation some times in sequence. -/
def Repeated (R : Nat → Nat → Prop) : Nat → Nat → Nat → Prop
  | 0, i, j => j = i
  | n + 1, i, j => ∃ k, R i k ∧ Repeated R n k j

/-- The character in front of a position of a text. -/
def charBefore (text : List Char) : Nat → Option Char
  | 0 => none
  | i + 1 => text[i]?

namespace Regex

/-- The expression matches the text from one position to another. -/
def Spans (text : List Char) : Regex → Nat → Nat → Prop
  | empty, i, j => j = i
  | chars s, i, j => j = i + 1 ∧ ∃ c, text[i]? = some c ∧ s.has c.toNat = true
  | look l, i, j => j = i ∧ i ≤ text.length ∧ l.holds (charBefore text i) text[i]? = true
  | seq a b, i, j => ∃ k, a.Spans text i k ∧ b.Spans text k j
  | alt a b, i, j => a.Spans text i j ∨ b.Spans text i j
  | .repeat r least most _, i, j => ∃ n, least ≤ n ∧ (∀ m, most = some m → n ≤ max least m) ∧
      Repeated (r.Spans text) n i j
  | group r _, i, j => r.Spans text i j

end Regex

/-! ## Sets of positions as bits -/

theorem testBit_push (b : Bool) (x i : Nat) :
    (b.toNat + 2 * x).testBit i = if i = 0 then b else x.testBit (i - 1) := by
  cases i with
  | zero => cases b <;> simp [Nat.testBit_zero, Nat.add_mod]
  | succ i =>
    have hhalf : (b.toNat + 2 * x) / 2 = x := by
      have hbit : b.toNat ≤ 1 := Bool.toNat_le b
      omega
    simp [Nat.testBit_succ, hhalf]

theorem CharSet.testBit_positions (s : CharSet) (text : List Char) (i : Nat) :
    (s.positions text).testBit i = true ↔ ∃ c, text[i]? = some c ∧ s.has c.toNat = true := by
  induction text generalizing i with
  | nil => simp [positions]
  | cons c rest ih =>
    rw [positions, testBit_push]
    cases i with
    | zero => simp
    | succ i => simpa using ih i

theorem Look.testBit_positions (l : Look) (before : Option Char) (text : List Char) (i : Nat) :
    (l.positions before text).testBit i = true ↔ i ≤ text.length ∧
      l.holds (if i = 0 then before else text[i - 1]?) text[i]? = true := by
  induction text generalizing before i with
  | nil =>
    rw [positions, ← Nat.add_zero (Bool.toNat _), ← Nat.mul_zero 2, testBit_push]
    cases i <;> simp
  | cons c rest ih =>
    rw [positions, testBit_push]
    cases i with
    | zero => simp
    | succ i =>
      cases i with
      | zero => simpa using ih (some c) 0
      | succ i => simpa using ih (some c) (i + 1)

/-! ## Repetitions -/

namespace Repeated

variable {R : Nat → Nat → Prop}

theorem add_iff {m n i j : Nat} :
    Repeated R (m + n) i j ↔ ∃ k, Repeated R m i k ∧ Repeated R n k j := by
  induction m generalizing i with
  | zero => simp [Repeated]
  | succ m ih =>
    rw [Nat.succ_add]
    simp only [Repeated, ih]
    constructor
    · rintro ⟨k, hk, l, hl, hj⟩
      exact ⟨l, ⟨k, hk, hl⟩, hj⟩
    · rintro ⟨l, ⟨k, hk, hl⟩, hj⟩
      exact ⟨k, hk, l, hl, hj⟩

theorem le (hR : ∀ i j, R i j → i ≤ j) {n i j : Nat} (h : Repeated R n i j) : i ≤ j := by
  induction n generalizing i with
  | zero => exact Nat.le_of_eq h.symm
  | succ n ih =>
    obtain ⟨k, hk, hj⟩ := h
    exact (hR i k hk).trans (ih hj)

/-- Repetitions that match nothing can be left out; the others are at most as many as there are
positions between the ends. -/
theorem shorten (hR : ∀ i j, R i j → i ≤ j) {n i j : Nat} (h : Repeated R n i j) :
    ∃ m ≤ j - i, m ≤ n ∧ Repeated R m i j := by
  induction n generalizing i with
  | zero => exact ⟨0, Nat.zero_le _, le_rfl, h⟩
  | succ n ih =>
    obtain ⟨k, hk, hj⟩ := h
    obtain ⟨m, hm, hmn, hrest⟩ := ih hj
    have hik := hR i k hk
    have hkj := le hR hj
    by_cases heq : k = i
    · subst heq
      exact ⟨m, hm, by omega, hrest⟩
    · exact ⟨m + 1, by omega, by omega, k, hk, hrest⟩

end Repeated

namespace Regex

/-- Repeating a step that changes nothing any more changes nothing. -/
theorem times_eq_iterate (step : Nat → Nat) (n ps : Nat) : times step n ps = step^[n] ps := by
  induction n generalizing ps with
  | zero => rfl
  | succ n ih =>
    rw [times, Function.iterate_succ_apply]
    by_cases h : step ps = ps
    · rw [if_pos h, h, Function.iterate_fixed h]
    · rw [if_neg h, ih]

theorem upTo_eq_iterate (step : Nat → Nat) (n ps : Nat) :
    upTo step n ps = (fun ps => ps ||| step ps)^[n] ps := by
  induction n generalizing ps with
  | zero => rfl
  | succ n ih =>
    rw [upTo, Function.iterate_succ_apply]
    by_cases h : ps ||| step ps = ps
    · rw [if_pos h]
      show ps = (fun ps => ps ||| step ps)^[n] (ps ||| step ps)
      rw [h, Function.iterate_fixed h]
    · rw [if_neg h, ih]

section

variable {step : Nat → Nat} {R : Nat → Nat → Prop}
  (hstep : ∀ ps j, (step ps).testBit j = true ↔ ∃ i, ps.testBit i = true ∧ R i j)

include hstep

theorem testBit_times (n ps j : Nat) :
    (times step n ps).testBit j = true ↔ ∃ i, ps.testBit i = true ∧ Repeated R n i j := by
  rw [times_eq_iterate]
  induction n generalizing ps with
  | zero =>
    constructor
    · intro h
      exact ⟨j, h, rfl⟩
    · rintro ⟨i, hi, rfl⟩
      exact hi
  | succ n ih =>
    rw [Function.iterate_succ_apply, ih]
    simp only [hstep, Repeated]
    constructor
    · rintro ⟨k, ⟨i, hi, hk⟩, hj⟩
      exact ⟨i, hi, k, hk, hj⟩
    · rintro ⟨i, hi, k, hk, hj⟩
      exact ⟨k, ⟨i, hi, hk⟩, hj⟩

theorem testBit_upTo (n ps j : Nat) : (upTo step n ps).testBit j = true ↔
    ∃ i, ps.testBit i = true ∧ ∃ m ≤ n, Repeated R m i j := by
  rw [upTo_eq_iterate]
  induction n generalizing ps with
  | zero =>
    constructor
    · intro h
      exact ⟨j, h, 0, le_rfl, rfl⟩
    · rintro ⟨i, hi, m, hm, hj⟩
      obtain rfl : m = 0 := Nat.le_zero.mp hm
      obtain rfl : j = i := hj
      exact hi
  | succ n ih =>
    rw [Function.iterate_succ_apply, ih]
    simp only [Nat.testBit_or, Bool.or_eq_true, hstep]
    constructor
    · rintro ⟨k, hk | ⟨i, hi, hk⟩, m, hm, hj⟩
      · exact ⟨k, hk, m, hm.trans n.le_succ, hj⟩
      · exact ⟨i, hi, m + 1, Nat.succ_le_succ hm, k, hk, hj⟩
    · rintro ⟨i, hi, m, hm, hj⟩
      cases m with
      | zero => exact ⟨i, .inl hi, 0, Nat.zero_le n, hj⟩
      | succ m =>
        obtain ⟨k, hk, hj⟩ := hj
        exact ⟨k, .inr ⟨i, hi, hk⟩, m, Nat.le_of_succ_le_succ hm, hj⟩

end

/-! ## Bounds of matches -/

variable {text : List Char}

/-- A match ends where it starts or later, and takes no more than the rest of the text. -/
theorem bounds_of_spans (r : Regex) {i j : Nat} (h : r.Spans text i j) :
    i ≤ j ∧ j ≤ max i text.length := by
  induction r generalizing i j with
  | empty =>
    obtain rfl : j = i := h
    exact ⟨le_rfl, le_max_left _ _⟩
  | chars s =>
    obtain ⟨rfl, c, hc, -⟩ := h
    obtain ⟨hlt, -⟩ := List.getElem?_eq_some_iff.mp hc
    exact ⟨i.le_succ, (Nat.succ_le_of_lt hlt).trans (le_max_right _ _)⟩
  | look l =>
    obtain ⟨rfl, -⟩ := h
    exact ⟨le_rfl, le_max_left _ _⟩
  | seq a b iha ihb =>
    obtain ⟨k, ha, hb⟩ := h
    have hk := iha ha
    have hj := ihb hb
    omega
  | alt a b iha ihb => exact h.elim iha ihb
  | «repeat» r least most greedy ih =>
    obtain ⟨n, -, -, h⟩ := h
    induction n generalizing i with
    | zero =>
      obtain rfl : j = i := h
      exact ⟨le_rfl, le_max_left _ _⟩
    | succ n ihn =>
      obtain ⟨k, hk, hrest⟩ := h
      have hk := ih hk
      have hj := ihn hrest
      omega
  | group r captures ih => exact ih h

theorem le_of_spans {r : Regex} (i j : Nat) (h : r.Spans text i j) : i ≤ j :=
  (r.bounds_of_spans h).1

/-- However often an expression is repeated, a match needs no more repetitions beyond the least
number than the text has characters. -/
theorem repeated_beyond_iff {r : Regex} {least i j : Nat} :
    (∃ n, least ≤ n ∧ Repeated (r.Spans text) n i j) ↔
      ∃ k, Repeated (r.Spans text) least i k ∧
        ∃ m ≤ text.length + 1, Repeated (r.Spans text) m k j := by
  constructor
  · rintro ⟨n, hn, h⟩
    obtain ⟨extra, rfl⟩ := Nat.exists_eq_add_of_le hn
    obtain ⟨k, hk, hj⟩ := Repeated.add_iff.mp h
    obtain ⟨m, hm, -, hshort⟩ := Repeated.shorten le_of_spans hj
    have hbound : j ≤ max k text.length :=
      (bounds_of_spans (.repeat r 0 none true) ⟨m, m.zero_le, by simp, hshort⟩).2
    exact ⟨k, hk, m, by omega, hshort⟩
  · rintro ⟨k, hk, m, -, hj⟩
    exact ⟨least + m, Nat.le_add_right _ _, Repeated.add_iff.mpr ⟨k, hk, hj⟩⟩

/-- With an upper bound the repetitions beyond the least number are at most the difference. -/
theorem repeated_upTo_iff {R : Nat → Nat → Prop} {least most i j : Nat} :
    (∃ n, least ≤ n ∧ n ≤ max least most ∧ Repeated R n i j) ↔
      ∃ k, Repeated R least i k ∧ ∃ m ≤ most - least, Repeated R m k j := by
  constructor
  · rintro ⟨n, hn, hmost, h⟩
    obtain ⟨extra, rfl⟩ := Nat.exists_eq_add_of_le hn
    obtain ⟨k, hk, hj⟩ := Repeated.add_iff.mp h
    exact ⟨k, hk, extra, by omega, hj⟩
  · rintro ⟨k, hk, m, hm, hj⟩
    exact ⟨least + m, by omega, by omega, Repeated.add_iff.mpr ⟨k, hk, hj⟩⟩

/-! ## Searching -/

/-- The positions a search keeps are those where a match ends that starts at one it was given. -/
theorem testBit_ends (r : Regex) (starts j : Nat) : (r.ends text starts).testBit j = true ↔
    ∃ i, starts.testBit i = true ∧ r.Spans text i j := by
  induction r generalizing starts j with
  | empty => simp [ends, Spans]
  | chars s =>
    rw [ends, Nat.mul_comm]
    cases j with
    | zero => simp [Spans]
    | succ j =>
      have hshift : (2 * (starts &&& s.positions text)).testBit (j + 1) =
          (starts &&& s.positions text).testBit j := by
        simp [Nat.testBit_succ]
      rw [hshift, Nat.testBit_and, Bool.and_eq_true, CharSet.testBit_positions]
      simp [Spans]
  | look l =>
    rw [ends, Nat.testBit_and, Bool.and_eq_true, Look.testBit_positions]
    cases j <;> simp [Spans, charBefore, and_left_comm]
  | seq a b iha ihb =>
    simp only [ends, ihb, iha, Spans]
    constructor
    · rintro ⟨k, ⟨i, hi, hk⟩, hj⟩
      exact ⟨i, hi, k, hk, hj⟩
    · rintro ⟨i, hi, k, hk, hj⟩
      exact ⟨k, ⟨i, hi, hk⟩, hj⟩
  | alt a b iha ihb =>
    simp only [ends, Nat.testBit_or, Bool.or_eq_true, iha, ihb, Spans, and_or_left, exists_or]
  | «repeat» r least most greedy ih =>
    have hsplit (i : Nat) : Spans text (.repeat r least most greedy) i j ↔
        ∃ k, Repeated (r.Spans text) least i k ∧
          ∃ m ≤ most.elim (text.length + 1) (· - least),
            Repeated (r.Spans text) m k j := by
      cases most with
      | none => simpa [Spans] using repeated_beyond_iff
      | some most => simpa [Spans] using repeated_upTo_iff
    have hends : (Regex.repeat r least most greedy).ends text starts =
        upTo (r.ends text) (most.elim (text.length + 1) (· - least))
          (times (r.ends text) least starts) := by
      cases most <;> rw [ends] <;> rfl
    rw [hends, testBit_upTo ih]
    simp only [testBit_times ih, hsplit]
    constructor
    · rintro ⟨k, ⟨i, hi, hk⟩, hj⟩
      exact ⟨i, hi, k, hk, hj⟩
    · rintro ⟨i, hi, k, hk, hj⟩
      exact ⟨k, ⟨i, hi, hk⟩, hj⟩
  | group r captures ih => exact ih starts j

theorem testBit_everywhere (i : Nat) : (everywhere text).testBit i = decide (i ≤ text.length) := by
  show (2 ^ (text.length + 1) - 1).testBit i = _
  rw [Nat.testBit_two_pow_sub_one, decide_eq_decide]
  exact Nat.lt_succ_iff

/-- A search finds a match if and only if there is one. -/
theorem matchesIn_iff (r : Regex) (s : String) : r.matchesIn s = true ↔
    ∃ i j, i ≤ s.toList.length ∧ r.Spans s.toList i j := by
  have hbit : r.matchesIn s = true ↔
      ∃ j, (r.ends s.toList (everywhere s.toList)).testBit j = true := by
    rw [matchesIn, bne_iff_ne]
    constructor
    · exact Nat.exists_testBit_of_ne_zero
    · rintro ⟨j, hj⟩ hzero
      simp [hzero] at hj
  simp only [hbit, testBit_ends, testBit_everywhere, decide_eq_true_eq]
  exact exists_comm

end Regex

end Crosstab
