import Crosstab.Proofs.Report.Attached
import Crosstab.Proofs.Report.Engine
import Crosstab.Proofs.Report.Sliced

/-!
# The statement that is shown is the one that is sent

The statement of a report is shown by planning it without data.  Making the report plans it over
the dataset, attaches buckets, writes the statement and sends it.  That both write one text is a
matter of plans: the keys of a plan have the same names with data and without
(`Spec.plan_without_data`), and a statement reads nothing else of a plan.

What an engine does is told as a program of the monad that its backend runs in: one call with the
statement and its tables, and then only the reply is looked at (`Engine.pushDown_eq_map`); or no
call at all, where planning or writing the statement fails (`Engine.pushDown_of_error`).
-/

namespace Crosstab

namespace Spec

variable {s : Spec} {site : Site} {ds ds' : Dataset} {p : Plan} {e : ReportError}

/-! ## Planning with data and without -/

/-- A plan for a warehouse does not look at the dataset, and leaves it as it is. -/
theorem plan_warehouse_eq (s : Spec) (ds : Dataset) :
    s.plan .warehouse ds = (ds, (s.plan .warehouse (.ofFrame .empty)).2) := by
  unfold plan
  cases s.validate with
  | error e => rfl
  | ok _ => simp only [Plan.resolveAll_warehouse_eq]

/-- A plan that is made over a dataset is made without data too. -/
theorem plan_without_data (h : s.plan site ds = (ds', .ok p)) :
    (s.plan .warehouse (.ofFrame .empty)).2 = .ok { p with site := .warehouse } := by
  obtain ⟨hvalid, keys, _, hkeys, rfl⟩ := plan_eq_ok h
  rw [plan, hvalid, Plan.resolveAll_warehouse _ hkeys]
  rfl

/-- A column that is not there is the only reason for which planning fails over a dataset but not
without data. -/
theorem plan_error_without_data (hds : ds.WellFormed)
    (h : s.plan .embedded ds = (ds', .error e)) :
    (s.plan .warehouse (.ofFrame .empty)).2 = .error e ∨
      ∃ d ∈ s.dimensions, d.name ∉ ds.base.names ∧ e = .invalid (.missingColumn d.name) := by
  unfold plan at h ⊢
  cases hvalid : s.validate with
  | error e' =>
    rw [hvalid] at h
    obtain rfl : e' = e := Except.error.inj (Prod.mk.inj h).2
    exact .inl rfl
  | ok _ =>
    rw [hvalid] at h
    obtain ⟨ds₁, -, hall, -, -, -, -⟩ := hds.resolveAll_here s.dimensions
    dsimp only at h
    rw [Plan.resolveAll_embedded, hall] at h
    cases hkeys : s.dimensions.mapM fun d => (do let _ ← ds.base.require d.name; d.keyName) with
    | ok keys =>
      rw [hkeys] at h
      cases (Prod.mk.inj h).2
    | error e' =>
      rw [hkeys] at h
      obtain rfl : e' = e := Except.error.inj (Prod.mk.inj h).2
      obtain ⟨d, hd, hkey⟩ := exists_mem_of_mapM_eq_error hkeys
      refine .inr ⟨d, hd, ?_⟩
      -- the grain of the dimension is known, so it is its column that is missing
      obtain ⟨g, hg⟩ := (validate_eq_ok_iff.mp hvalid).2.1 d hd
      by_cases hname : d.name ∈ ds.base.names
      · obtain ⟨source, hsource⟩ := Frame.exists_require hname
        obtain ⟨key, hkey'⟩ := Dimension.exists_keyName hg
        rw [hsource, ok_bind, hkey'] at hkey
        cases hkey
      · refine ⟨hname, ?_⟩
        have hnone : ds.base.column? d.name = none := by
          rw [← Option.not_isSome_iff_eq_none]
          exact fun hsome => hname (Frame.hasColumn_iff.mp hsome)
        rw [Frame.require, hnone] at hkey
        exact (Except.error.inj hkey).symm

/-! ## The text of a statement -/

theorem embeddedSql_eq (h : s.plan site ds = (ds', .ok p)) :
    s.embeddedSql = s.embeddedStatement p := by
  rw [embeddedSql, plan_without_data h]
  rfl

theorem warehouseSql_eq (w : Warehouse) (h : s.plan site ds = (ds', .ok p)) :
    s.warehouseSql w = s.warehouseStatement w p := by
  rw [warehouseSql, plan_without_data h]
  rfl

/-- A plan that is made over a dataset groups by columns of its table, which has the buckets of all
dimensions. -/
theorem table_of_plan (hds : ds.WellFormed) (h : s.plan .embedded ds = (ds', .ok p)) :
    ds'.WellFormed ∧ ds'.base = ds.base ∧ (∀ name ∈ p.groupKeys, name ∈ ds'.table.names) ∧
      ∀ name, ds'.table.column? name =
        (ds.table.column? name).or (s.dimensions.findSome? fun d => d.bucket? ds.base name) := by
  obtain ⟨-, keys, hall, hkeys, rfl⟩ := plan_eq_ok h
  rw [Plan.resolveAll_embedded] at hall
  obtain ⟨hwf, hcolumn⟩ := hds.column?_of_resolveAll hall
  obtain ⟨hnames, hbase⟩ := Plan.mem_names_of_resolveAll hall
  refine ⟨hwf, hbase, ?_, hcolumn⟩
  intro name hname
  rw [groupKeys_planOf] at hname
  obtain ⟨i, hi⟩ := List.mem_iff_getElem?.mp hname
  obtain ⟨d, hd, hkey⟩ := getElem?_of_mapM_eq_ok hkeys hi
  have hmem := List.mem_of_getElem? hd
  rcases Dimension.keyName_eq_ok_iff.mp hkey with ⟨-, rfl⟩ | ⟨g, hg, rfl⟩
  · exact Dataset.mem_names_table.mpr (.inl (hbase.symm ▸ hnames d hmem))
  · rw [← Frame.hasColumn_iff, Frame.hasColumn, hcolumn, Option.isSome_or, Bool.or_eq_true,
      List.findSome?_isSome_iff]
    obtain ⟨source, hsource⟩ := Frame.exists_require (hnames d hmem)
    refine .inr ⟨d, hmem, ?_⟩
    rw [Dimension.bucket?_of_bucket hg, if_pos rfl, Frame.require_eq_ok_iff.mp hsource]
    rfl

end Spec

namespace Engine

variable {m : Type → Type} [Monad m]

/-! ## Calls of the backend -/

/-- A request that can be made is made once, and the reply is pivoted. -/
theorem pushDown_eq_map [LawfulMonad m] (p : Plan) (s : Spec) (b : Backend m) (sql : String)
    (tables : List (String × Frame)) : pushDown p s (.ok (b, sql, tables)) =
      (fun reply => reply.bind fun g => g.pivot p s) <$> b.execute sql tables :=
  (map_eq_pure_bind _ _).symm

/-- Without a statement no request is made. -/
theorem pushDown_of_error {p : Plan} {s : Spec} {site : Site} {e : ReportError}
    (b : Option (Backend m)) (tables : Outcome (List (String × Frame))) :
    pushDown p s (request site (.error e) b tables) = pure (.error e) := rfl

variable {ds ds' : Dataset} {s : Spec} {p : Plan} {sql : String} {e : ReportError}

theorem run_embedded_of_statement [LawfulMonad m] (hplan : s.plan .embedded ds = (ds', .ok p))
    (hframe : ds'.frame = .ok ds'.table) (hsql : s.embeddedStatement p = .ok sql) (b : Backend m) :
    (embedded (some b)).run ds s =
      (fun reply => (ds', reply.bind fun g => g.pivot p s)) <$>
        b.execute sql [(datasetTable, ds'.table)] := by
  have hrequest : request .embedded (s.embeddedStatement p) (some b)
      (ds'.frame.map fun f => [(datasetTable, f)]) =
        .ok (b, sql, [(datasetTable, ds'.table)]) := by
    rw [hframe, hsql]
    rfl
  rw [run_of_plan hplan, execute, hrequest, pushDown_eq_map, Functor.map_map]

theorem run_warehouse_of_statement [LawfulMonad m] {w : Warehouse}
    (hplan : s.plan .warehouse ds = (ds', .ok p)) (hsql : s.warehouseStatement w p = .ok sql)
    (b : Backend m) : (warehouse w (some b)).run ds s =
      (fun reply => (ds', reply.bind fun g => g.pivot p s)) <$> b.execute sql [] := by
  have hrequest : request .warehouse (s.warehouseStatement w p) (some b) (.ok []) =
      .ok (b, sql, []) := by
    rw [hsql]
    rfl
  rw [run_of_plan hplan, execute, hrequest, pushDown_eq_map, Functor.map_map]

/-- Where planning or writing the statement fails, so does the report, without a call. -/
theorem run_embedded_of_error [LawfulMonad m] (b : Option (Backend m))
    (h : ((s.plan .embedded ds).2 >>= s.embeddedStatement) = .error e) :
    (embedded b).run ds s = pure ((s.plan .embedded ds).1, .error e) := by
  rcases hplan : s.plan .embedded ds with ⟨ds', e' | p⟩
  · rw [hplan] at h
    obtain rfl : e' = e := Except.error.inj h
    exact run_of_plan_error hplan
  · rw [hplan, ok_bind] at h
    rw [run_of_plan hplan, execute, h, pushDown_of_error, map_pure]

theorem run_warehouse_of_error [LawfulMonad m] {w : Warehouse} (b : Option (Backend m))
    (h : ((s.plan .warehouse ds).2 >>= s.warehouseStatement w) = .error e) :
    (warehouse w b).run ds s = pure (ds, .error e) := by
  rcases hplan : s.plan .warehouse ds with ⟨ds', e' | p⟩
  all_goals
    obtain rfl : ds = ds' :=
      (Prod.mk.inj ((Spec.plan_warehouse_eq s ds).symm.trans hplan)).1
  · rw [hplan] at h
    obtain rfl : e' = e := Except.error.inj h
    exact run_of_plan_error hplan
  · rw [hplan, ok_bind] at h
    rw [run_of_plan hplan, execute, h, pushDown_of_error, map_pure]

/-! ## Main statement -/

/-- **The statement that is shown is the one that is sent.**  An embedded database is called once,
with the text that is shown and the table of the dataset, in which all columns are that the keys
name; a warehouse is called once, with the text that is shown and no table, and the dataset stays as
it is.
Where planning or writing the statement fails, nothing is called, and what is shown fails for the
same reason, unless a dimension has no column in the dataset. -/
theorem sends_shown_statement [LawfulMonad m] (hds : ds.WellFormed) (s : Spec) :
    (∀ ds' p sql (b : Backend m), s.plan .embedded ds = (ds', .ok p) →
      s.embeddedStatement p = .ok sql →
      s.embeddedSql = .ok sql ∧
      (ds'.base = ds.base ∧ ds'.frame = .ok ds'.table ∧
        (∀ name ∈ p.groupKeys, name ∈ ds'.table.names) ∧
        ∀ name, ds'.table.column? name =
          (ds.table.column? name).or (s.dimensions.findSome? fun d => d.bucket? ds.base name)) ∧
      (embedded (some b)).run ds s =
        (fun reply => (ds', reply.bind fun g => g.pivot p s)) <$>
          b.execute sql [(datasetTable, ds'.table)]) ∧
    (∀ e (b : Option (Backend m)), ((s.plan .embedded ds).2 >>= s.embeddedStatement) = .error e →
      (embedded b).run ds s = pure ((s.plan .embedded ds).1, .error e) ∧
      (s.embeddedSql = .error e ∨
        ∃ d ∈ s.dimensions, d.name ∉ ds.base.names ∧ e = .invalid (.missingColumn d.name))) ∧
    (∀ w ds' p sql (b : Backend m), s.plan .warehouse ds = (ds', .ok p) →
      s.warehouseStatement w p = .ok sql →
      s.warehouseSql w = .ok sql ∧
      (warehouse w (some b)).run ds s =
        (fun reply => (ds, reply.bind fun g => g.pivot p s)) <$> b.execute sql []) ∧
    ∀ w e (b : Option (Backend m)),
      ((s.plan .warehouse ds).2 >>= s.warehouseStatement w) = .error e →
      (warehouse w b).run ds s = pure (ds, .error e) ∧ s.warehouseSql w = .error e := by
  refine ⟨?_, ?_, ?_, ?_⟩
  · intro ds' p sql b hplan hsql
    obtain ⟨hwf, hbase, hkeys, hcolumn⟩ := Spec.table_of_plan hds hplan
    exact ⟨(Spec.embeddedSql_eq hplan).trans hsql, ⟨hbase, hwf.frame_eq, hkeys, hcolumn⟩,
      run_embedded_of_statement hplan hwf.frame_eq hsql b⟩
  · intro e b h
    refine ⟨run_embedded_of_error b h, ?_⟩
    rcases hplan : s.plan .embedded ds with ⟨ds', e' | p⟩
    · rw [hplan] at h
      obtain rfl : e' = e := Except.error.inj h
      refine (Spec.plan_error_without_data hds hplan).imp_left fun hshown => ?_
      rw [Spec.embeddedSql, hshown]
      rfl
    · rw [hplan, ok_bind] at h
      exact .inl ((Spec.embeddedSql_eq hplan).trans h)
  · intro w ds' p sql b hplan hsql
    obtain rfl : ds = ds' := (Prod.mk.inj ((Spec.plan_warehouse_eq s ds).symm.trans hplan)).1
    exact ⟨(Spec.warehouseSql_eq w hplan).trans hsql, run_warehouse_of_statement hplan hsql b⟩
  · intro w e b h
    refine ⟨run_warehouse_of_error b h, ?_⟩
    rw [Spec.plan_warehouse_eq] at h
    exact h

/-- A backend that keeps what it is asked, and always replies with the same table. -/
def recorder (reply : Frame) : Backend (StateM (List (String × List (String × Frame)))) where
  execute sql tables := do
    modify fun asked => asked ++ [(sql, tables)]
    return .ok reply

/-- A report by months is asked for once, over a table with the months; one by a column that is not
there is not asked for. -/
theorem sends_shown_statement_sumsByMonth :
    (∃ sql, Dataset.sumsByMonth.embeddedSql = .ok sql ∧
      (((embedded (some (recorder Dataset.monthSums))).run (.ofFrame Dataset.soldByDay)
        Dataset.sumsByMonth).run []).2 = [(sql, [(datasetTable, Dataset.soldByMonth.table)])]) ∧
    (((embedded (some (recorder Dataset.monthSums))).run (.ofFrame Dataset.soldByDay)
      { rows := [{ name := "shop" }] }).run []).2 = [] := by
  have hds := Dataset.wellFormed_ofFrame (f := Dataset.soldByDay) (by decide)
  constructor
  · have hplan : Dataset.sumsByMonth.plan .embedded (.ofFrame Dataset.soldByDay) =
        (Dataset.soldByMonth, .ok { Dataset.monthPlan with site := .embedded }) := rfl
    obtain ⟨hshown, -, hrun⟩ := (sends_shown_statement hds Dataset.sumsByMonth).1 _ _ _
      (recorder Dataset.monthSums) hplan rfl
    exact ⟨_, hshown, by rw [hrun]; rfl⟩
  · obtain ⟨hrun, -⟩ := (sends_shown_statement hds { rows := [{ name := "shop" }] }).2.1
      (.invalid (.missingColumn "shop")) (some (recorder Dataset.monthSums)) rfl
    rw [hrun]
    rfl

end Engine

end Crosstab
