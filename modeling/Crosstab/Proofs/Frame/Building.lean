import Crosstab.Frame.Dataset
import Crosstab.Frame.Records
import Crosstab.Proofs.Frame.Rows

/-!
# Tables that are built

Adding a column to a well-formed table gives a well-formed one (`wellFormed_insert`), so every table
that is built column by column is well formed: one that is read from records
(`wellFormed_ofRecords`), and that of a dataset (`Dataset.wellFormed_frame`).  Columns of new names
stand in the order in which they are added (`foldlM_insert_eq_ok`).
-/

namespace Crosstab

namespace Frame

theorem mem_putColumn {c d : Column} {cs : List Column} (h : d ∈ putColumn c cs) :
    d = c ∨ d ∈ cs := by
  induction cs with
  | nil => simpa [putColumn] using h
  | cons e rest ih =>
    unfold putColumn at h
    split at h
    · rcases List.mem_cons.mp h with rfl | h
      · exact .inl rfl
      · exact .inr (List.mem_cons_of_mem _ h)
    · rcases List.mem_cons.mp h with rfl | h
      · exact .inr List.mem_cons_self
      · exact (ih h).imp_right (List.mem_cons_of_mem _)

theorem putColumn_of_not_mem {c : Column} {cs : List Column} (h : c.name ∉ cs.map (·.name)) :
    putColumn c cs = cs ++ [c] := by
  induction cs with
  | nil => rfl
  | cons d rest ih =>
    simp only [List.map_cons, List.mem_cons, not_or] at h
    rw [putColumn, if_neg (Ne.symm h.1), ih h.2, List.cons_append]

/-- What adding a column does: the table has its length, which is that of the other columns. -/
theorem insert_eq_ok {f g : Frame} {c : Column} (h : f.insert c = .ok g) :
    g = ⟨putColumn c f.columns, c.values.length⟩ ∧
      (f.columns ≠ [] → c.values.length = f.len) := by
  unfold insert at h
  generalize hn : (if f.columns.isEmpty && f.len == 0 then c.values.length else f.len) = n at h
  dsimp only at h
  split at h
  · next hlen =>
    obtain rfl := Except.ok.inj h
    refine ⟨by rw [hlen], ?_⟩
    intro hne
    simpa [hne, hlen] using hn.symm
  · exact nomatch h

/-- Adding a column keeps a table well formed. -/
theorem wellFormed_insert {f g : Frame} {c : Column} (hf : f.WellFormed)
    (h : f.insert c = .ok g) : g.WellFormed := by
  obtain ⟨rfl, hlen⟩ := insert_eq_ok h
  refine ⟨?_, ?_⟩
  · rw [names, map_name_putColumn]
    split
    · exact hf.nodup_names
    · next hnew =>
      refine List.nodup_append.mpr ⟨hf.nodup_names, List.nodup_singleton _, ?_⟩
      intro name hname other hother
      rw [List.mem_singleton.mp hother]
      exact ne_of_mem_of_not_mem hname hnew
  · intro d hd
    rcases mem_putColumn hd with rfl | hd
    · rfl
    · rw [hf.length_values d hd, hlen (List.ne_nil_of_mem hd)]

theorem wellFormed_foldlM_insert {cs : List Column} {f g : Frame} (hf : f.WellFormed)
    (h : cs.foldlM insert f = .ok g) : g.WellFormed := by
  induction cs generalizing f with
  | nil =>
    obtain rfl := pure_eq_ok_iff.mp h
    exact hf
  | cons c cs ih =>
    obtain ⟨f', hf', h⟩ := bind_eq_ok_iff.mp h
    exact ih (wellFormed_insert hf hf') h

/-- Adding a column brings in no other one. -/
theorem mem_columns_insert {f g : Frame} {c d : Column} (h : f.insert c = .ok g)
    (hd : d ∈ g.columns) : d = c ∨ d ∈ f.columns := by
  obtain ⟨rfl, _⟩ := insert_eq_ok h
  exact mem_putColumn hd

theorem mem_columns_foldlM_insert {cs : List Column} {f g : Frame} {d : Column}
    (h : cs.foldlM insert f = .ok g) (hd : d ∈ g.columns) : d ∈ cs ∨ d ∈ f.columns := by
  induction cs generalizing f with
  | nil =>
    obtain rfl := pure_eq_ok_iff.mp h
    exact .inr hd
  | cons c cs ih =>
    obtain ⟨f', hf', h⟩ := bind_eq_ok_iff.mp h
    rcases ih h with hd | hd
    · exact .inl (List.mem_cons_of_mem _ hd)
    · rcases mem_columns_insert hf' hd with rfl | hd
      · exact .inl List.mem_cons_self
      · exact .inr hd

/-- Columns of new names and of the length of the table come after the others, in order. -/
theorem foldlM_insert_eq_ok {cs : List Column} {f : Frame}
    (hnames : (f.names ++ cs.map (·.name)).Nodup)
    (hlen : ∀ c ∈ cs, c.values.length = f.len) :
    cs.foldlM insert f = .ok ⟨f.columns ++ cs, f.len⟩ := by
  induction cs generalizing f with
  | nil => simp [pure, Except.pure]
  | cons c cs ih =>
    have hc := hlen c List.mem_cons_self
    have hnew : c.name ∉ f.columns.map (·.name) := by
      intro hmem
      exact (List.nodup_append.mp hnames).2.2 _ hmem _ List.mem_cons_self rfl
    have hinsert : f.insert c = .ok ⟨f.columns ++ [c], f.len⟩ := by
      simp only [insert, hc, ite_self, if_true, putColumn_of_not_mem hnew]
    rw [List.foldlM_cons, hinsert, ok_bind, ih]
    · simp
    · simpa [names] using hnames
    · intro d hd
      exact hlen d (List.mem_cons_of_mem _ hd)

theorem wellFormed_withLen (n : Nat) : (withLen n).WellFormed where
  nodup_names := List.nodup_nil
  length_values := by simp [withLen]

theorem wellFormed_ofColumns {cs : List Column} {f : Frame} (h : ofColumns cs = .ok f) :
    f.WellFormed :=
  wellFormed_foldlM_insert (wellFormed_withLen _) h

/-- A table that is read is well formed: each column has a cell of each record. -/
theorem wellFormed_ofRecords {data : Json} {f : Frame} (h : ofRecords data = .ok f) :
    f.WellFormed := by
  unfold ofRecords at h
  split at h
  · next rows _ =>
    obtain ⟨records, hrecords, h⟩ := bind_eq_ok_iff.mp h
    obtain ⟨cells, hcells, h⟩ := bind_eq_ok_iff.mp h
    obtain ⟨frame, hframe, h⟩ := bind_eq_ok_iff.mp h
    obtain rfl := pure_eq_ok_iff.mp h
    refine ⟨(wellFormed_ofColumns hframe).nodup_names, ?_⟩
    intro c hc
    rcases mem_columns_foldlM_insert hframe hc with hc | hc
    · obtain ⟨_, _, rfl⟩ := List.mem_map.mp hc
      rw [List.length_map, length_of_mapM_eq_ok hcells, length_of_mapM_eq_ok hrecords]
    · exact nomatch hc
  · exact nomatch h

end Frame

/-- The table of a dataset over a well-formed base is well formed. -/
theorem Dataset.wellFormed_frame {ds : Dataset} {f : Frame} (hds : ds.base.WellFormed)
    (h : ds.frame = .ok f) : f.WellFormed :=
  Frame.wellFormed_foldlM_insert hds h

end Crosstab
