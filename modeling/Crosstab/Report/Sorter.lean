/-!
# Sorting by a comparison

A stable sort has one thing to give where the comparison orders the members of a list (`TotalOn`):
the members in order, those that tie as they came (`stably`).  Where it does not, nothing is
promised but that no member is lost: the sort may give them in whatever order, or it may notice and
stop.  A `Sorter` is any sort that keeps to this, and what is said of all sorters does not depend on
how they work.

Two of them are given.  `Sorter.merging` never stops.  `Sorter.halting` stops as soon as it may.
-/

namespace Crosstab

variable {α ε : Type}

/-- The comparison orders the members of a list, up to ties. -/
structure TotalOn (cmp : α → α → Ordering) (as : List α) : Prop where
  swap : ∀ a ∈ as, ∀ b ∈ as, cmp a b = (cmp b a).swap
  trans : ∀ a ∈ as, ∀ b ∈ as, ∀ c ∈ as, (cmp a b).isLE → (cmp b c).isLE → (cmp a c).isLE

instance (cmp : α → α → Ordering) (as : List α) : Decidable (TotalOn cmp as) :=
  decidable_of_iff
    ((∀ a ∈ as, ∀ b ∈ as, cmp a b = (cmp b a).swap) ∧
      ∀ a ∈ as, ∀ b ∈ as, ∀ c ∈ as, (cmp a b).isLE → (cmp b c).isLE → (cmp a c).isLE)
    ⟨fun h => ⟨h.1, h.2⟩, fun h => ⟨h.swap, h.trans⟩⟩

/-- The members in order; those that tie stay in the order in which they came. -/
def stably (cmp : α → α → Ordering) (as : List α) : List α :=
  as.mergeSort fun a b => cmp a b != .gt

theorem stably_perm (cmp : α → α → Ordering) (as : List α) : (stably cmp as).Perm as :=
  List.mergeSort_perm _ _

@[simp] theorem stably_singleton (cmp : α → α → Ordering) (a : α) : stably cmp [a] = [a] :=
  List.mergeSort_singleton _

/-- A stable sort.  It keeps the members of a list, and puts them in order where there is one; where
there is none, it may stop with an error. -/
structure Sorter (ε : Type) where
  /-- Sorts a list by a comparison, or stops. -/
  sort {α : Type} (cmp : α → α → Ordering) (as : List α) : Except ε (List α)
  perm {α : Type} {cmp : α → α → Ordering} {as bs : List α} (h : sort cmp as = .ok bs) :
    bs.Perm as
  stable {α : Type} {cmp : α → α → Ordering} {as : List α} (h : TotalOn cmp as) :
    sort cmp as = .ok (stably cmp as)

namespace Sorter

/-- The sort by merging.  It gives some order where there is none. -/
def merging : Sorter Empty where
  sort cmp as := .ok (stably cmp as)
  perm := by
    rintro α cmp as _ ⟨⟩
    exact stably_perm cmp as
  stable _ := rfl

/-- The sort that stops wherever there is no order, but for lists of up to twenty members: these are
sorted by insertion, which never compares the same two members twice. -/
def halting : Sorter Unit where
  sort cmp as := if as.length ≤ 20 ∨ TotalOn cmp as then .ok (stably cmp as) else .error ()
  perm := by
    intro α cmp as bs h
    split at h
    · cases h
      exact stably_perm cmp as
    · cases h
  stable h := if_pos (.inr h)

theorem halting_sort_of_length_le {cmp : α → α → Ordering} {as : List α} (h : as.length ≤ 20) :
    halting.sort cmp as = .ok (stably cmp as) :=
  if_pos (.inl h)

theorem halting_sort_of_not_totalOn {cmp : α → α → Ordering} {as : List α}
    (hlength : 20 < as.length) (h : ¬TotalOn cmp as) : halting.sort cmp as = .error () :=
  if_neg (not_or.mpr ⟨Nat.not_le.mpr hlength, h⟩)

end Sorter

end Crosstab
