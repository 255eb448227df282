import Crosstab.Report.Engine
import Crosstab.Proofs.Report.Permuted
import Crosstab.Proofs.Report.Plan

/-!
# Reports do not depend on the engine

A report is the same whether its groups are formed here or by a backend, if what the backend replies
are the rows of the grouped table (`Engine.run_eq_report`).  Three facts come together:

* all engines make the same plan, though only some of them attach buckets to the dataset
  (`Spec.plan_embedded`, `Spec.plan_warehouse`);
* the grouped table has no two rows with one tuple of keys (`Spec.wellFormed_of_grouped`);
* such a table is pivoted to one report, however its rows are ordered
  (`Frame.pivot_eq_of_sameRows`).

What a backend does besides replying, and whether it fails, is up to the monad that it runs in.
-/

namespace Crosstab

variable {m : Type → Type} [Monad m]

/-- Whatever a backend replies to a statement is a table with a property. -/
def Backend.Replies (b : Backend m) (sql : String) (tables : List (String × Frame))
    (P : Frame → Prop) : Prop :=
  ∃ act : m {g // P g}, b.execute sql tables = (fun g => .ok g.1) <$> act

/-- A report that is made here is the pivoted table of its groups. -/
theorem Dataset.report_eq {ds ds' : Dataset} {s : Spec} {p : Plan} {t : Frame}
    (hplan : s.plan .here ds = (ds', .ok p)) (ht : s.grouped ds' p = .ok t) :
    ds.report s = (ds', t.pivot p s) := by
  have hcomputed : s.computed ds' p = t.pivot p s := by
    rw [Spec.computed, ht, ok_bind]
  rw [report, hplan, ← hcomputed]
  rfl

/-- A report comes from a grouped table. -/
theorem Dataset.exists_grouped_of_report {ds ds' : Dataset} {s : Spec} {p : Plan} {r : Report}
    (hplan : s.plan .here ds = (ds', .ok p)) (h : ds.report s = (ds', .ok r)) :
    ∃ t, s.grouped ds' p = .ok t ∧ t.pivot p s = .ok r := by
  rw [Dataset.report, hplan] at h
  exact bind_eq_ok_iff.mp (Prod.mk.inj h).2

namespace Engine

/-- An engine executes the plan that it makes. -/
theorem run_of_plan [LawfulMonad m] {e : Engine m} {ds ds' : Dataset} {s : Spec} {p : Plan}
    (h : s.plan e.site ds = (ds', .ok p)) :
    e.run ds s = (fun answer => (ds', answer)) <$> e.execute ds' s p := by
  rw [run, h, map_eq_pure_bind]

/-- An engine that cannot plan a report does nothing more. -/
theorem run_of_plan_error {e : Engine m} {ds ds' : Dataset} {s : Spec} {err : ReportError}
    (h : s.plan e.site ds = (ds', .error err)) : e.run ds s = pure (ds', .error err) := by
  rw [run, h]

/-- A reply that is pivoted to a report makes this report. -/
theorem pushDown_of_replies [LawfulMonad m] {p : Plan} {s : Spec} {b : Backend m} {sql : String}
    {tables : List (String × Frame)} {r : Report}
    (h : b.Replies sql tables fun g => g.pivot p s = .ok r) :
    pushDown p s (.ok (b, sql, tables)) = (fun _ => .ok r) <$> b.execute sql tables := by
  obtain ⟨act, hact⟩ := h
  have hpivot : ∀ g : {g : Frame // g.pivot p s = .ok r},
      (Except.ok g.1 : Outcome Frame).bind (fun f => f.pivot p s) = .ok r := fun g => g.2
  rw [hact, Functor.map_map, pushDown, hact, bind_map_left, map_eq_pure_bind]
  exact bind_congr fun g => congrArg pure (hpivot g)

theorem replies_imp {b : Backend m} {sql : String} {tables : List (String × Frame)}
    {P Q : Frame → Prop} [LawfulMonad m] (h : b.Replies sql tables P) (hPQ : ∀ g, P g → Q g) :
    b.Replies sql tables Q := by
  obtain ⟨act, hact⟩ := h
  refine ⟨(fun g => ⟨g.1, hPQ g.1 g.2⟩) <$> act, ?_⟩
  rw [hact, Functor.map_map]

variable {ds ds' : Dataset} {s : Spec} {p : Plan} {t : Frame} {r : Report}

/-- **A report is the same whichever engine makes it.** -/
theorem run_eq_report [LawfulMonad m] (hplan : s.plan .here ds = (ds', .ok p))
    (ht : s.grouped ds' p = .ok t) (hreport : ds.report s = (ds', .ok r))
    (hdiffer : (p.groupKeys ++ p.metricNames).Nodup) (hkinds : t.OneKind p.groupKeys)
    (hnames : t.NamesDiffer p) (b : Backend m) :
    (∀ f sql, ds'.frame = .ok f → s.embeddedStatement p = .ok sql →
      b.Replies sql [(datasetTable, f)] t.SameRows →
      (embedded (some b)).run ds s =
        (fun _ => (ds', .ok r)) <$> b.execute sql [(datasetTable, f)]) ∧
    ∀ w sql, s.warehouseStatement w p = .ok sql → b.Replies sql [] t.SameRows →
      (warehouse w (some b)).run ds s = (fun _ => (ds, .ok r)) <$> b.execute sql [] := by
  have hmetrics := Spec.metricNames_of_plan hplan
  obtain ⟨hwf, htnames, hdistinct⟩ := Spec.wellFormed_of_grouped (hmetrics ▸ hdiffer) ht
  have htable : t.Pivotable p :=
    { mem_keys := fun name hname => htnames ▸ List.mem_append_left _ hname
      mem_metrics := fun name hname => htnames ▸ List.mem_append_right _ (hmetrics ▸ hname)
      nodup_metrics := (List.nodup_append.mp hdiffer).2.1
      distinct := hdistinct
      names_differ := hnames }
  have hpivot : ∀ g, t.SameRows g → g.pivot p s = .ok r := by
    intro g hg
    rw [Frame.pivot_eq_of_sameRows hwf htable hkinds hg s]
    exact (Prod.mk.inj ((Dataset.report_eq hplan ht).symm.trans hreport)).2
  constructor
  · intro f sql hframe hsql hb
    have hreply : b.Replies sql [(datasetTable, f)]
        fun g => g.pivot { p with site := .embedded } s = .ok r := replies_imp hb hpivot
    have hrequest : request .embedded (s.embeddedStatement { p with site := .embedded }) (some b)
        (ds'.frame.map fun f => [(datasetTable, f)]) = .ok (b, sql, [(datasetTable, f)]) := by
      rw [hframe, show s.embeddedStatement { p with site := .embedded } = .ok sql from hsql]
      rfl
    rw [run_of_plan (Spec.plan_embedded hplan), execute, hrequest, pushDown_of_replies hreply,
      Functor.map_map]
  · intro w sql hsql hb
    have hreply : b.Replies sql [] fun g => g.pivot { p with site := .warehouse } s = .ok r :=
      replies_imp hb hpivot
    have hrequest : request .warehouse (s.warehouseStatement w { p with site := .warehouse })
        (some b) (.ok []) = .ok (b, sql, []) := by
      rw [show s.warehouseStatement w { p with site := .warehouse } = .ok sql from hsql]
      rfl
    rw [run_of_plan (Spec.plan_warehouse hplan), execute, hrequest, pushDown_of_replies hreply,
      Functor.map_map]

/-- Visits of two cities in two years. -/
def visits : Dataset :=
  .ofFrame ⟨[⟨"city", [.text "oslo", .text "bonn", .text "oslo"]⟩,
    ⟨"year", [.int 2, .int 1, .int 2]⟩], 3⟩

/-- The number of visits by city and year. -/
def visitsByYear : Spec where
  rows := [{ name := "city" }]
  columns := [{ name := "year" }]
  totals := true

/-- The grouped table of this report. -/
def visitCounts : Frame :=
  ⟨[⟨"city", [.text "oslo", .text "bonn"]⟩, ⟨"year", [.int 2, .int 1]⟩,
    ⟨"rows", [.int 2, .int 1]⟩], 2⟩

/-- A backend that replies with rows and columns in an order of its own. -/
def shuffled : Backend Id where
  execute _ _ := .ok ⟨[⟨"rows", [.int 1, .int 2]⟩, ⟨"city", [.text "bonn", .text "oslo"]⟩,
    ⟨"year", [.int 1, .int 2]⟩], 2⟩

theorem replies_shuffled (sql : String) (tables : List (String × Frame)) :
    shuffled.Replies sql tables visitCounts.SameRows := by
  have hsame : visitCounts.SameRows ⟨[⟨"rows", [.int 1, .int 2]⟩,
      ⟨"city", [.text "bonn", .text "oslo"]⟩, ⟨"year", [.int 1, .int 2]⟩], 2⟩ :=
    ⟨[1, 0], by decide, rfl, by decide⟩
  exact ⟨pure ⟨_, hsame⟩, rfl⟩

/-- The report does not tell that the rows were shuffled. -/
theorem run_shuffled :
    (embedded (some shuffled)).run visits visitsByYear = visits.report visitsByYear ∧
    (warehouse { project := "p", dataset := "d", table := "t" } (some shuffled)).run visits
      visitsByYear = visits.report visitsByYear := by
  have hplan : visitsByYear.plan .here visits =
      (visits, .ok ⟨.here, ["city"], ["year"], [], ["rows"]⟩) := rfl
  have hgrouped : visitsByYear.grouped visits ⟨.here, ["city"], ["year"], [], ["rows"]⟩ =
      .ok visitCounts := rfl
  have hnames : visitCounts.NamesDiffer ⟨.here, ["city"], ["year"], [], ["rows"]⟩ := by decide
  obtain ⟨r, hreport⟩ : ∃ r, visits.report visitsByYear = (visits, .ok r) := by
    rw [Dataset.report_eq hplan hgrouped, Frame.pivot_eq_ok visitsByYear (by decide) (by decide)
      (Frame.nodup_map_labelName (by decide) hnames)]
    exact ⟨_, rfl⟩
  obtain ⟨hembedded, hwarehouse⟩ := run_eq_report hplan hgrouped hreport (by decide)
    (by decide) hnames shuffled
  rw [hreport]
  exact ⟨hembedded _ _ rfl rfl (replies_shuffled _ _), hwarehouse _ _ rfl (replies_shuffled _ _)⟩

end Engine

end Crosstab
