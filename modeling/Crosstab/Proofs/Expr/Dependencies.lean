import Crosstab.Proofs.Expr.Reads
import Crosstab.Report.Grouped
import Mathlib.Data.String.Basic

/-!
# Dependencies

The dependencies of an expression are the columns that it names, sorted and without repetition
(`pairwise_sortedNames`).  They are all that evaluation looks at (`evaluate_eq_of_agreeOn`): a
column of another name may have any cells, or be missing.
-/

namespace Crosstab

/-! ## Sorted names -/

theorem pairwise_insertName {name : String} {names : List String} (h : names.Pairwise (· < ·)) :
    (insertName name names).Pairwise (· < ·) := by
  induction names with
  | nil => simp [insertName]
  | cons other rest ih =>
    obtain ⟨hother, hrest⟩ := List.pairwise_cons.mp h
    unfold insertName
    split
    · next hlt =>
      refine List.pairwise_cons.mpr ⟨fun n hn => ?_, h⟩
      rcases List.mem_cons.mp hn with rfl | hn
      · exact hlt
      · exact hlt.trans (hother n hn)
    · split
      · exact h
      · next hlt hne =>
        refine List.pairwise_cons.mpr ⟨fun n hn => ?_, ih hrest⟩
        rcases mem_insertName.mp hn with rfl | hn
        · exact lt_of_le_of_ne (not_lt.mp hlt) (Ne.symm hne)
        · exact hother n hn

theorem pairwise_foldl_insertName (names : List String) {seen : List String}
    (h : seen.Pairwise (· < ·)) :
    (names.foldl (fun s n => insertName n s) seen).Pairwise (· < ·) := by
  induction names generalizing seen with
  | nil => exact h
  | cons n rest ih => exact ih (pairwise_insertName h)

theorem pairwise_sortedNames (names : List String) : (sortedNames names).Pairwise (· < ·) :=
  pairwise_foldl_insertName names .nil

/-- Leaving names out before or after sorting gives the same names. -/
theorem sortedNames_filter (keep : String → Bool) (names : List String) :
    sortedNames (names.filter keep) = (sortedNames names).filter keep := by
  refine (pairwise_sortedNames _).eq_of_mem_iff ((pairwise_sortedNames names).filter keep) ?_
  intro name
  rw [mem_sortedNames, List.mem_filter, List.mem_filter, mem_sortedNames]

/-! ## Tables that agree on the dependencies -/

/-- **Dependencies are sound.**  On two tables of one length that have the same column, or none, for
every name among the dependencies, an expression and a condition have the same value or fail with
the same error.  So have an aggregate and a measure over the same groups. -/
theorem evaluate_eq_of_agreeOn {f g : Frame} :
    (∀ e : Expr, f.AgreeOn (· ∈ e.dependencies) g → e.evaluate g = e.evaluate f) ∧
    (∀ p : Condition, f.AgreeOn (· ∈ p.dependencies) g → p.evaluate g = p.evaluate f) ∧
    (∀ (a : Aggregate) (groups : List (List Nat)), f.AgreeOn (· ∈ a.dependencies) g →
      a.eval g groups = a.eval f groups) ∧
    ∀ (m : Measure) (groups : List Frame.Group), f.AgreeOn (· ∈ m.dependencies) g →
      m.column g groups = m.column f groups := by
  refine ⟨?_, ?_, ?_, ?_⟩
  · intro e hfg
    exact Scalar.eval_congr Clause.eval_reads e (fun _ => mem_sortedNames.mpr) hfg
  · intro p hfg
    exact Predicate.eval_congr Clause.eval_reads p (fun _ => mem_sortedNames.mpr) hfg
  · intro a groups hfg
    exact Aggregate.eval_congr (fun _ hname => hname) hfg groups
  · intro m groups hfg
    rw [Measure.column, Measure.column, Aggregate.eval_congr (fun _ hname => hname) hfg]

/-- Two orders with notes. -/
def notedOrders : Frame := ⟨[⟨"amount", [.int 4, .int 9]⟩, ⟨"note", [.text "late", .null]⟩], 2⟩

/-- Two orders of the same amounts with sites. -/
def sitedOrders : Frame := ⟨[⟨"site", [.int 1, .int 2]⟩, ⟨"amount", [.int 4, .int 9]⟩], 2⟩

/-- The amounts above five, and the taxes of the other orders. -/
def amountOrTax : Expr :=
  .caseWhen [(.compare .gt (.column "amount") (.literal (.int 5)), .column "amount")]
    (some (.column "tax"))

/-- The sum of the amounts, divided by that of their squares. -/
def amountShare : Aggregate :=
  .ratio (.column "amount") (.binary .mul (.column "amount") (.column "amount")) Binary64.zero

/-- Notes and sites do not matter where only amounts and taxes are read, of which both tables have
the same amounts and no taxes. -/
theorem evaluate_sitedOrders :
    notedOrders.AgreeOn (· ∈ amountOrTax.dependencies) sitedOrders ∧
    amountOrTax.evaluate sitedOrders = .error (.invalid (.missingColumn "tax")) ∧
    Condition.evaluate (.compare .lt (.column "amount") (.literal (.int 5))) sitedOrders =
      .ok [some true, some false] ∧
    amountShare.eval sitedOrders [[0, 1]] = amountShare.eval notedOrders [[0, 1]] ∧
    Measure.column (.row "amounts" .sum (.column "amount")) sitedOrders [([], [1])] =
      .ok ⟨"amounts", [.int 9]⟩ := by
  have hagree : notedOrders.AgreeOn (fun name => name = "amount" ∨ name = "tax") sitedOrders := by
    refine ⟨rfl, ?_⟩
    rintro name (rfl | rfl) <;> rfl
  have hamount : notedOrders.AgreeOn (· ∈ ["amount"]) sitedOrders :=
    hagree.mono fun name hname => .inl (List.mem_singleton.mp hname)
  have htax : notedOrders.AgreeOn (· ∈ amountOrTax.dependencies) sitedOrders := by
    refine hagree.mono fun name hname => ?_
    have hnames : amountOrTax.dependencies = ["amount", "tax"] := by decide
    simpa [hnames] using hname
  obtain ⟨hexpr, hcondition, haggregate, hmeasure⟩ :=
    evaluate_eq_of_agreeOn (f := notedOrders) (g := sitedOrders)
  exact ⟨htax, hexpr amountOrTax htax, hcondition _ hamount, haggregate amountShare _ hamount,
    hmeasure (.row "amounts" .sum (.column "amount")) _ hamount⟩

end Crosstab
