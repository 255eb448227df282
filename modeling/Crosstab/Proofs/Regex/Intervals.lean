import Crosstab.Regex.Interval
import Mathlib.Data.List.Nodup

/-!
# Intervals of single characters

A pattern is compiled from the intervals of its sets.  A set of one character is one interval
(`CharSet.intervals_single`), although it is found as the complement of a complement, and the set of
all characters is two, since surrogates are no characters (`CharSet.intervals_all`).
-/

namespace Crosstab

namespace Interval

/-- The union of intervals that have been put in the order of their least numbers. -/
def joined : List Interval → List Interval
  | [] => []
  | i :: rest => join i rest

/-- Sorting finds the only order in which the least numbers increase. -/
theorem inOrder_eq {is js : List Interval} (hperm : is.Perm js)
    (hsorted : js.Pairwise fun a b => a.lo < b.lo) : inOrder is = joined js := by
  have hsort : (is.mergeSort fun a b => a.lo ≤ b.lo) = js := by
    refine @List.Perm.eq_of_pairwise _ (fun a b : Interval => a.lo ≤ b.lo) _ _ ?_ ?_
      (hsorted.imp Nat.le_of_lt) ((List.mergeSort_perm _ _).trans hperm)
    · intro a b ha hb hab hba
      have hmem : a ∈ js := hperm.mem_iff.mp (List.mem_mergeSort.mp ha)
      have hnodup : (js.map Interval.lo).Nodup :=
        List.pairwise_map.mpr (hsorted.imp Nat.ne_of_lt)
      exact List.inj_on_of_nodup_map hnodup hmem hb (Nat.le_antisymm hab hba)
    · have hpairwise := @List.pairwise_mergeSort _ (fun a b : Interval => decide (a.lo ≤ b.lo))
        (by simpa using fun a b c hab hbc => Nat.le_trans hab hbc)
        (by simpa using fun a b => Nat.le_total _ _) is
      simpa using hpairwise
  rw [inOrder, hsort]
  cases js <;> rfl

theorem compl_eq {is js : List Interval} (hperm : (surrogates :: is).Perm js)
    (hsorted : js.Pairwise fun a b => a.lo < b.lo) : compl is = gaps 0 (joined js) := by
  rw [compl, inOrder_eq hperm hsorted]

theorem compl_nil : compl [] = [⟨0, 0xD7FF⟩, ⟨0xE000, 0x10FFFF⟩] :=
  compl_eq (.refl _) (by simp)

theorem compl_compl_nil : compl (compl []) = [] := by
  rw [compl_nil, compl_eq (.swap ⟨0, 0xD7FF⟩ surrogates _) (by simp [surrogates])]
  rfl

/-- A character in front of the surrogates, with characters on both sides. -/
theorem compl_compl_low {n : Nat} (hn : n + 1 < 0xD7FF) :
    compl (compl [point (n + 1)]) = [point (n + 1)] := by
  have hcompl : compl [point (n + 1)] = [⟨0, n⟩, ⟨n + 2, 0xD7FF⟩, ⟨0xE000, 0x10FFFF⟩] := by
    have hjoin : ¬ 0xD800 ≤ n + 1 + 1 := by omega
    have hgap : n + 1 + 1 < 0xD800 := by omega
    rw [compl_eq (.swap (point (n + 1)) surrogates []) (by simp [point, surrogates]; omega)]
    simp [joined, join, gaps, point, surrogates, hjoin, hgap]
  have hperm : [surrogates, ⟨0, n⟩, ⟨n + 2, 0xD7FF⟩, ⟨0xE000, 0x10FFFF⟩].Perm
      [⟨0, n⟩, ⟨n + 2, 0xD7FF⟩, surrogates, ⟨0xE000, 0x10FFFF⟩] := by grind
  rw [hcompl, compl_eq hperm (by simp [surrogates]; omega)]
  simp [joined, join, gaps, point, surrogates]

/-- A character behind the surrogates, with characters on both sides. -/
theorem compl_compl_high {n : Nat} (hlow : 0xE000 < n + 1) (hn : n + 1 < 0x10FFFF) :
    compl (compl [point (n + 1)]) = [point (n + 1)] := by
  have hcompl : compl [point (n + 1)] = [⟨0, 0xD7FF⟩, ⟨0xE000, n⟩, ⟨n + 2, 0x10FFFF⟩] := by
    have hjoin : ¬ n + 1 ≤ 0xDFFF + 1 := by omega
    have hgap : 0xDFFF + 1 < n + 1 := by omega
    have hlast : n + 1 + 1 ≤ 0x10FFFF := by omega
    rw [compl_eq (.refl _) (by simp [point, surrogates]; omega)]
    simp [joined, join, gaps, point, surrogates, hjoin, hgap, hlast]
  have hmax : max 0xDFFF n = n := by omega
  rw [hcompl, compl_eq (.swap ⟨0, 0xD7FF⟩ surrogates _) (by simp [surrogates]; omega)]
  simp [joined, join, gaps, point, surrogates, hmax]

/-- The first and the last characters, and those beside the surrogates. -/
theorem compl_compl_edge {n : Nat} (hn : n ∈ [0, 0xD7FF, 0xE000, 0x10FFFF]) :
    compl (compl [point n]) = [point n] := by
  simp only [List.mem_cons, List.not_mem_nil, or_false] at hn
  rcases hn with rfl | rfl | rfl | rfl
  · rw [compl_eq (.swap (point 0) surrogates []) (by decide)]
    exact compl_eq (.swap ⟨1, 0xD7FF⟩ surrogates [⟨0xE000, 0x10FFFF⟩]) (by decide)
  · rw [compl_eq (.swap (point 0xD7FF) surrogates []) (by decide)]
    exact compl_eq (.swap ⟨0, 0xD7FE⟩ surrogates [⟨0xE000, 0x10FFFF⟩]) (by decide)
  · rw [compl_eq (.refl [surrogates, point 0xE000]) (by decide)]
    exact compl_eq (.swap ⟨0, 0xD7FF⟩ surrogates [⟨0xE001, 0x10FFFF⟩]) (by decide)
  · rw [compl_eq (.refl [surrogates, point 0x10FFFF]) (by decide)]
    exact compl_eq (.swap ⟨0, 0xD7FF⟩ surrogates [⟨0xE000, 0x10FFFE⟩]) (by decide)

/-- The complement of the complement of a character is that character. -/
theorem compl_compl_point (c : Char) : compl (compl [point c.toNat]) = [point c.toNat] := by
  have hvalid : c.toNat < 0xD800 ∨ 0xDFFF < c.toNat ∧ c.toNat < 0x110000 := c.valid
  by_cases hedge : c.toNat ∈ [0, 0xD7FF, 0xE000, 0x10FFFF]
  · exact compl_compl_edge hedge
  · simp only [List.mem_cons, List.not_mem_nil, or_false, not_or] at hedge
    obtain ⟨n, hn⟩ := Nat.exists_eq_succ_of_ne_zero hedge.1
    rw [hn] at hvalid hedge ⊢
    by_cases hlow : n + 1 < 0xD7FF
    · exact compl_compl_low hlow
    · exact compl_compl_high (by omega) (by omega)

end Interval

namespace CharSet

theorem intervals_all : all.intervals = [⟨0, 0xD7FF⟩, ⟨0xE000, 0x10FFFF⟩] := by
  show Interval.compl (Interval.compl (Interval.compl [])) = _
  rw [Interval.compl_compl_nil, Interval.compl_nil]

theorem intervals_single (c : Char) : (single c).intervals = [Interval.point c.toNat] :=
  Interval.compl_compl_point c

end CharSet

end Crosstab
