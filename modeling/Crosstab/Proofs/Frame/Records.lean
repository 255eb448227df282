import Crosstab.Proofs.Cell.Written
import Crosstab.Proofs.Frame.Building
import Crosstab.Proofs.Frame.Groups
import Crosstab.Proofs.Text.Bytes

/-!
# Tables that go through records

A table whose cells are `Cell.Portable` is read back from its records, with its columns in the order
of their names (`ofRecords_toRecords`): the fields of each record stand in this order, all records
have the same ones, and each field reads as the cell that it was written from.  Without rows there
are no records to name the columns, so the table has a row or no columns.

The records do not tell in which order the columns were (`toRecords_byName`), so the table that is
read is read again from its own records.
-/

namespace Crosstab

/-! ## Cells in records -/

namespace Cell

variable {c : Cell}

theorem canonical_toJson (c : Cell) : c.toJson.canonical = c.toJson := by
  cases c with
  | float x => exact canonical_ofFloat x
  | _ => rfl

/-- What is neither date nor timestamp is read back from its bare form. -/
theorem ofJson?_toJson (h : c.Portable) : ofJson? c.toJson = some c := by
  have hfinite : c.Finite := by
    cases c with
    | float x => exact h
    | _ => trivial
  have htagged : c.toTaggedJson = c.toJson := by
    cases c with
    | date d => exact h.elim
    | timestamp t => exact h.elim
    | _ => rfl
  have hread := ofJson?_toTaggedJson hfinite
  rwa [canonical_toTaggedJson, htagged] at hread

end Cell

namespace Frame

variable {f : Frame}

/-! ## Columns in the order of their names -/

/-- The table with its columns in the order of their names. -/
def byName (f : Frame) : Frame := ⟨f.columns.mergeSort fun c d => c.name ≤ d.name, f.len⟩

theorem columns_byName_perm (f : Frame) : f.byName.columns.Perm f.columns :=
  List.mergeSort_perm _ _

theorem names_byName_perm (f : Frame) : f.byName.names.Perm f.names :=
  (columns_byName_perm f).map _

theorem wellFormed_byName (hf : f.WellFormed) : f.byName.WellFormed where
  nodup_names := (names_byName_perm f).nodup_iff.mpr hf.nodup_names
  length_values c hc := hf.length_values c ((columns_byName_perm f).mem_iff.mp hc)

/-- The columns are in strict order, for no two have one name. -/
theorem sorted_byName (hf : f.WellFormed) : f.byName.columns.Pairwise (·.name < ·.name) := by
  have hle : f.byName.columns.Pairwise (·.name ≤ ·.name) := by
    refine (List.pairwise_mergeSort ?_ ?_ f.columns).imp of_decide_eq_true
    · intro a b c hab hbc
      exact decide_eq_true (le_trans (of_decide_eq_true hab) (of_decide_eq_true hbc))
    · intro a b
      simpa using le_total a.name b.name
  have hne : f.byName.columns.Pairwise (·.name ≠ ·.name) :=
    List.pairwise_map.mp (wellFormed_byName hf).nodup_names
  exact (hle.and hne).imp fun h => lt_of_le_of_ne h.1 h.2

theorem column?_byName (hf : f.WellFormed) (name : String) :
    f.byName.column? name = f.column? name := by
  refine Option.ext ?_
  intro c
  rw [column?_eq_some_iff (wellFormed_byName hf), column?_eq_some_iff hf,
    (columns_byName_perm f).mem_iff]

/-- Columns that are in order stay where they are. -/
theorem byName_byName (hf : f.WellFormed) : f.byName.byName = f.byName := by
  have hsorted : f.byName.columns.Pairwise fun c d => decide (c.name ≤ d.name) = true :=
    (sorted_byName hf).imp fun h => decide_eq_true (le_of_lt h)
  exact congrArg (Frame.mk · f.len) (List.mergeSort_of_pairwise hsorted)

/-! ## Records of a table -/

/-- The fields of a row, in the order of the columns. -/
def rowFields (f : Frame) (i : Nat) : List (String × Json) :=
  f.columns.map fun c => (c.name, (c.values.getD i .null).toJson)

theorem map_fst_rowFields (f : Frame) (i : Nat) : (f.rowFields i).map (·.1) = f.names := by
  rw [rowFields, List.map_map]
  rfl

theorem sortFields_rowFields (hf : f.WellFormed) (i : Nat) :
    Json.sortFields (f.rowFields i) = f.byName.rowFields i := by
  have hnodup : ((f.rowFields i).map (·.1)).Nodup := by
    rw [map_fst_rowFields]
    exact hf.nodup_names
  have hperm : (Json.sortFields (f.rowFields i)).Perm (f.byName.rowFields i) :=
    (Json.sortFields_perm hnodup).trans ((columns_byName_perm f).map _).symm
  have hsorted : Json.Sorted (f.byName.rowFields i) := List.pairwise_map.mpr (sorted_byName hf)
  refine hperm.eq_of_pairwise ?_ (Json.sorted_sortFields _) hsorted
  intro a b _ _ hab hba
  exact absurd hab (lt_asymm hba)

/-- The record of a row has the cells in the order of their names. -/
theorem record_eq (hf : f.WellFormed) (i : Nat) : f.record i = .object (f.byName.rowFields i) :=
  congrArg Json.object (sortFields_rowFields hf i)

theorem canonical_record (f : Frame) (i : Nat) : (f.record i).canonical = f.record i := by
  have hfixed : ∀ field ∈ Json.sortFields (f.rowFields i), field.2.canonical = field.2 := by
    intro field hfield
    obtain ⟨c, _, rfl⟩ := List.mem_map.mp (Json.mem_of_mem_sortFields hfield)
    exact Cell.canonical_toJson _
  show (Json.object (Json.sortFields (f.rowFields i))).canonical = _
  rw [Json.canonical_object, Json.canonicalFields_of_canonical hfixed,
    Json.sortFields_of_sorted (Json.sorted_sortFields _)]
  rfl

theorem canonical_toRecords (f : Frame) : f.toRecords.canonical = f.toRecords := by
  rw [toRecords, Json.canonical_array, List.map_map]
  exact congrArg Json.array (List.map_congr_left fun i _ => canonical_record f i)

/-- The records do not tell the order of the columns. -/
theorem toRecords_byName (hf : f.WellFormed) : f.byName.toRecords = f.toRecords := by
  have hrecord : ∀ i, f.byName.record i = f.record i := by
    intro i
    rw [record_eq (wellFormed_byName hf), record_eq hf, byName_byName hf]
  exact congrArg Json.array (List.map_congr_left fun i _ => hrecord i)

/-! ## Reading the records -/

/-- Some names and, after them, those of fields that are new. -/
def addNames (names : List String) (fields : List (String × Json)) : List String :=
  fields.foldl (fun names f => if f.1 ∈ names then names else names ++ [f.1]) names

theorem addNames_of_nodup {before : List String} {fields : List (String × Json)}
    (h : (before ++ fields.map (·.1)).Nodup) :
    addNames before fields = before ++ fields.map (·.1) := by
  induction fields generalizing before with
  | nil => simp [addNames]
  | cons field rest ih =>
    have hnew : field.1 ∉ before := by
      intro hmem
      exact (List.nodup_append.mp h).2.2 _ hmem _ List.mem_cons_self rfl
    have hrest : addNames (before ++ [field.1]) rest = _ := ih (by simpa using h)
    rw [addNames] at hrest ⊢
    rw [List.foldl_cons, if_neg hnew, hrest, List.append_assoc, List.map_cons]
    rfl

theorem addNames_of_mem {before : List String} {fields : List (String × Json)}
    (h : ∀ name ∈ fields.map (·.1), name ∈ before) : addNames before fields = before := by
  induction fields with
  | nil => rfl
  | cons field rest ih =>
    obtain ⟨hfield, hrest⟩ := List.forall_mem_cons.mp h
    rw [addNames, List.foldl_cons, if_pos hfield]
    exact ih hrest

theorem foldl_addNames_of_mem {before : List String} {records : List (List (String × Json))}
    (h : ∀ fields ∈ records, ∀ name ∈ fields.map (·.1), name ∈ before) :
    records.foldl addNames before = before := by
  induction records with
  | nil => rfl
  | cons fields rest ih =>
    obtain ⟨hfields, hrest⟩ := List.forall_mem_cons.mp h
    rw [List.foldl_cons, addNames_of_mem hfields]
    exact ih hrest

/-- Records that all have the same fields name these. -/
theorem fieldNames_of_same {records : List (List (String × Json))} {names : List String}
    (hnodup : names.Nodup) (hsame : ∀ fields ∈ records, fields.map (·.1) = names)
    (hsome : records ≠ [] ∨ names = []) : fieldNames records = names := by
  show records.foldl addNames [] = names
  cases records with
  | nil => exact (hsome.resolve_left fun h => h rfl).symm
  | cons first rest =>
    obtain ⟨hfirst, hrest⟩ := List.forall_mem_cons.mp hsame
    have hnames : addNames [] first = names := by
      rw [← hfirst] at hnodup ⊢
      exact addNames_of_nodup hnodup
    -- the first record brings in all names, the others none
    rw [List.foldl_cons, hnames]
    refine foldl_addNames_of_mem ?_
    intro fields hfields name hname
    rwa [hrest fields hfields] at hname

/-- A field of a row is read as the cell that it was written from. -/
theorem recordCell_rowFields (hf : f.WellFormed) {c : Column} (hc : c ∈ f.columns)
    (hcells : ∀ v ∈ c.values, v.Portable) (i : Nat) :
    recordCell (f.rowFields i) c.name = .ok (c.values.getD i .null) := by
  have hnodup : ((f.rowFields i).map (·.1)).Nodup := by
    rw [map_fst_rowFields]
    exact hf.nodup_names
  have hlookup : (f.rowFields i).lookup c.name = some (c.values.getD i .null).toJson :=
    (Json.lookup_eq_some_iff_mem hnodup).mpr (List.mem_map.mpr ⟨c, hc, rfl⟩)
  have hportable : (c.values.getD i .null).Portable := by
    rw [List.getD_eq_getElem?_getD]
    cases hcell : c.values[i]? with
    | none => trivial
    | some v => exact hcells v (List.mem_of_getElem? hcell)
  simp only [recordCell, hlookup, Cell.ofJson?_toJson hportable]

theorem fieldNames_rowFields (hf : f.WellFormed) (hrows : 0 < f.len ∨ f.columns = []) :
    fieldNames ((List.range f.len).map f.rowFields) = f.names := by
  refine fieldNames_of_same hf.nodup_names ?_ ?_
  · intro fields hfields
    obtain ⟨i, _, rfl⟩ := List.mem_map.mp hfields
    exact map_fst_rowFields f i
  · refine hrows.imp ?_ List.map_eq_nil_iff.mpr
    intro hlen
    simpa [List.range_eq_nil] using Nat.ne_of_gt hlen

/-- The cells of the rows, each row in the order of the columns. -/
def cellRows (f : Frame) : List (List Cell) :=
  (List.range f.len).map fun i => f.columns.map fun c => c.values.getD i .null

theorem mapM_recordCell_rowFields (hf : f.WellFormed)
    (hcells : ∀ c ∈ f.columns, ∀ v ∈ c.values, v.Portable) :
    ((List.range f.len).map f.rowFields).mapM (fun fields => f.names.mapM (recordCell fields)) =
      .ok f.cellRows := by
  rw [List.mapM_map]
  refine mapM_eq_ok_map ?_
  intro i _
  rw [Function.comp_apply, names, List.mapM_map]
  exact mapM_eq_ok_map fun c hc => recordCell_rowFields hf hc (hcells c hc) i

/-- The cells of the rows, put into columns again. -/
theorem columns_of_cellRows (hf : f.WellFormed) :
    (f.names.zipIdx.map fun (name, j) => (⟨name, f.cellRows.map (·.getD j .null)⟩ : Column)) =
      f.columns := by
  refine List.ext_getElem (by simp [names]) ?_
  intro j _ hj
  have hvalues : (List.range f.len).map (fun i => f.columns[j].values.getD i .null) =
      f.columns[j].values := by
    rw [← hf.length_values _ (List.getElem_mem hj), map_getD_range]
  refine (List.getElem_map _).trans ?_
  simp only [names, cellRows, List.getElem_zipIdx, List.getElem_map, List.map_map]
  refine congrArg (Column.mk f.columns[j].name) ((List.map_congr_left ?_).trans hvalues)
  intro i _
  simp [List.getD_eq_getElem?_getD, List.getElem?_eq_getElem hj]

theorem exists_ofColumns (hf : f.WellFormed) : ∃ n, ofColumns f.columns = .ok ⟨f.columns, n⟩ := by
  refine ⟨_, foldlM_insert_eq_ok hf.nodup_names ?_⟩
  intro c hc
  have hhead := List.head?_eq_some_head (List.ne_nil_of_mem hc)
  rw [hf.length_values c hc, hhead]
  exact (hf.length_values _ (List.head_mem _)).symm

/-- What is read from the records of a table is the table with its columns by name. -/
theorem ofRecords_toRecords (hf : f.WellFormed) (hrows : 0 < f.len ∨ f.columns = [])
    (hcells : ∀ c ∈ f.columns, ∀ v ∈ c.values, v.Portable) :
    ofRecords f.toRecords = .ok f.byName := by
  have hperm := columns_byName_perm f
  have hsorted := wellFormed_byName hf
  have hrecords : recordFields ((List.range f.len).map f.record) =
      .ok ((List.range f.byName.len).map f.byName.rowFields) := by
    rw [recordFields, List.mapM_map]
    refine mapM_eq_ok_map ?_
    intro i _
    rw [Function.comp_apply, record_eq hf]
  have hnames := fieldNames_rowFields hsorted (hrows.imp id fun hnil => (hnil ▸ hperm).eq_nil)
  have hread := mapM_recordCell_rowFields hsorted fun c hc => hcells c (hperm.mem_iff.mp hc)
  obtain ⟨n, hcolumns⟩ := exists_ofColumns hsorted
  rw [ofRecords, canonical_toRecords, toRecords]
  simp only [hrecords, ok_bind, hnames, hread, columns_of_cellRows hsorted, hcolumns,
    List.length_map, List.length_range]
  rfl

/-- **Records tell a table.**  Read from its records, a table has its columns in the bytewise order
of their names and is otherwise the same, and what is read is read again. -/
theorem exists_ofRecords_toRecords (hf : f.WellFormed) (hrows : 0 < f.len ∨ f.columns = [])
    (hcells : ∀ c ∈ f.columns, ∀ v ∈ c.values, v.Portable) :
    ∃ g, ofRecords f.toRecords = .ok g ∧ g.len = f.len ∧ g.names.Perm f.names ∧
      g.names.Pairwise (fun s t => Text.bytes s < Text.bytes t) ∧
      (∀ name, g.column? name = f.column? name) ∧
      ofRecords g.toRecords = .ok g := by
  have hread := ofRecords_toRecords hf hrows hcells
  have hsorted : f.byName.names.Pairwise fun s t => Text.bytes s < Text.bytes t :=
    List.pairwise_map.mpr ((sorted_byName hf).imp Text.bytes_lt_iff.mpr)
  refine ⟨f.byName, hread, rfl, names_byName_perm f, hsorted, column?_byName hf, ?_⟩
  rw [toRecords_byName hf, hread]

/-- A table with a cell of each kind, whose columns are not in order. -/
def unordered : Frame :=
  ⟨[⟨"é", [.int 1, .float ⟨0x3FF0000000000000⟩]⟩, ⟨"z", [.bool true, .null]⟩,
    ⟨"Z", [.text "é", .text ""]⟩], 2⟩

theorem exists_ofRecords_toRecords_unordered :
    unordered.WellFormed ∧ 0 < unordered.len ∧
      (∀ c ∈ unordered.columns, ∀ v ∈ c.values, v.Portable) ∧
      ∃ g, ofRecords unordered.toRecords = .ok g ∧ g.len = unordered.len ∧
        g.names.Perm unordered.names ∧
        g.names.Pairwise (fun s t => Text.bytes s < Text.bytes t) ∧
        (∀ name, g.column? name = unordered.column? name) ∧
        ofRecords g.toRecords = .ok g := by
  have hf : unordered.WellFormed := by decide
  have hrows : 0 < unordered.len := by decide
  have hcells : ∀ c ∈ unordered.columns, ∀ v ∈ c.values, v.Portable := by
    simp only [unordered, List.forall_mem_cons, List.not_mem_nil, false_imp_iff, implies_true,
      and_true, Cell.Portable, true_and]
    decide
  exact ⟨hf, hrows, hcells, exists_ofRecords_toRecords hf (.inl hrows) hcells⟩

end Frame

end Crosstab
