import Crosstab.Proofs.Frame.Building
import Crosstab.Proofs.Frame.Groups

/-!
# Tables that are edited

A table is made without columns, of columns or from records, and then edited: columns are added to
it in place, rows of it are kept by masks or taken by positions (`Built`).  However that goes, and
also where a column is refused, the table stays in order (`sound_of_built`):

* its columns have different names and a cell for each row, so that every cell that taking,
  grouping or writing records looks up is there;
* a column that is refused leaves the table as it was, and one that is added takes the place of the
  one of its name, or the last place, and leaves the others where they are.

`insertInPlace` adds a column as it is done to a table that stays in use: a table without columns
and rows first takes on the length of the column.  The look-ups with a question mark in their names
have no answer where a cell that they need is not there.
-/

namespace Crosstab.Frame

/-! ## Adding a column in place -/

/-- The table that a column is added to: without columns and rows, it has the length of the
column. -/
def adopting (f : Frame) (c : Column) : Frame :=
  if f.columns.isEmpty && f.len == 0 then { f with len := c.values.length } else f

/-- Adds a column to a table in place: what becomes of the table, also where the column is
refused. -/
def insertInPlace (f : Frame) (c : Column) : Frame × Outcome Unit :=
  let g := f.adopting c
  if c.values.length = g.len then ({ g with columns := putColumn c g.columns }, .ok ())
  else (g, reject (.lengthMismatch c.name g.len c.values.length))

/-- A column that a table takes. -/
def Fits (f : Frame) (c : Column) : Prop :=
  c.values.length = f.len ∨ f.columns = [] ∧ f.len = 0

variable {f : Frame} {c : Column}

theorem columns_adopting (f : Frame) (c : Column) : (f.adopting c).columns = f.columns := by
  unfold adopting
  split <;> rfl

theorem len_adopting (f : Frame) (c : Column) : (f.adopting c).len =
    if f.columns.isEmpty && f.len == 0 then c.values.length else f.len := by
  unfold adopting
  split <;> rfl

/-- Adding a column gives the table that adding it in place leaves. -/
theorem insert_eq_inPlace (f : Frame) (c : Column) :
    f.insert c = (f.insertInPlace c).2.map fun _ => (f.insertInPlace c).1 := by
  simp only [insert, insertInPlace, len_adopting, columns_adopting]
  split <;> split <;> rfl

theorem fits_iff : f.Fits c ↔ c.values.length = (f.adopting c).len := by
  rw [len_adopting, Fits]
  by_cases h : f.columns = [] ∧ f.len = 0
  · simp [h.1, h.2]
  · simp only [h, or_false]
    rw [if_neg (by simpa using h)]

theorem insertInPlace_of_fits (h : f.Fits c) :
    f.insertInPlace c = (⟨putColumn c f.columns, c.values.length⟩, .ok ()) := by
  have hlen := fits_iff.mp h
  simp only [insertInPlace, columns_adopting, if_pos hlen]
  rw [← hlen]

/-- A column that is refused leaves the table as it was. -/
theorem insertInPlace_of_not_fits (h : ¬ f.Fits c) :
    f.insertInPlace c = (f, reject (.lengthMismatch c.name f.len c.values.length)) := by
  have hsame : f.adopting c = f := by
    rw [adopting, if_neg]
    intro hempty
    exact h (.inr (by simpa using hempty))
  have hlen : c.values.length ≠ f.len := fun hlen => h (.inl hlen)
  simp only [insertInPlace, hsame, if_neg hlen]

theorem insert_of_fits (h : f.Fits c) :
    f.insert c = .ok ⟨putColumn c f.columns, c.values.length⟩ := by
  rw [insert_eq_inPlace, insertInPlace_of_fits h]
  rfl

theorem insert_of_not_fits (h : ¬ f.Fits c) :
    f.insert c = reject (.lengthMismatch c.name f.len c.values.length) := by
  rw [insert_eq_inPlace, insertInPlace_of_not_fits h]
  rfl

/-- A column of a name that is there takes the place of the one of this name. -/
theorem putColumn_of_mem {cs : List Column} (hnodup : (cs.map (·.name)).Nodup)
    (h : c.name ∈ cs.map (·.name)) :
    putColumn c cs = cs.map fun d => if d.name = c.name then c else d := by
  induction cs with
  | nil => exact nomatch h
  | cons d rest ih =>
    obtain ⟨hd, hrest⟩ := List.nodup_cons.mp hnodup
    rw [putColumn, List.map_cons]
    by_cases hname : d.name = c.name
    · have hothers : ∀ e ∈ rest, e.name ≠ c.name := fun e he heq =>
        hd (List.mem_map.mpr ⟨e, he, heq.trans hname.symm⟩)
      rw [if_pos hname, if_pos hname, List.map_congr_left fun e he => if_neg (hothers e he),
        List.map_id']
    · have hmem : c.name ∈ rest.map (·.name) :=
        (List.mem_cons.mp h).resolve_left fun heq => hname heq.symm
      rw [if_neg hname, if_neg hname, ih hrest hmem]

/-! ## Look-ups that may miss -/

/-- The rows at some positions, if all cells at them are there. -/
def take? (f : Frame) (rows : List Nat) : Option Frame := do
  let columns ← f.columns.mapM fun c => do
    let values ← rows.mapM fun i => c.values[i]?
    return ⟨c.name, values⟩
  return ⟨columns, rows.length⟩

/-- The rows at which a mask is true, if all cells at them are there. -/
def filter? (f : Frame) (mask : List Bool) : Option Frame := f.take? (kept mask)

/-- The key of a row, if its cells are there. -/
def keyAt? (columns : List Column) (row : Nat) : Option (List Cell) :=
  columns.mapM fun c => c.values[row]?

/-- The rows grouped by the cells of some columns, if the columns have cells for all rows. -/
def groups? (f : Frame) (keys : List String) : Outcome (Option (List Group)) :=
  match keys with
  | [] => .ok (some [([], List.range f.len)])
  | _ => do
    let columns ← keys.mapM f.require
    return (List.range f.len).foldlM
      (fun gs row => (keyAt? columns row).map fun key => addToGroup key row gs) []

/-- The row at a position as a record, if its cells are there. -/
def record? (f : Frame) (row : Nat) : Option Json := do
  let fields ← f.columns.mapM fun c => (c.values[row]?).map fun cell => (c.name, cell.toJson)
  return .object (Json.sortFields fields)

/-- The rows of a table as records, if all columns have cells for them. -/
def toRecords? (f : Frame) : Option Json := ((List.range f.len).mapM f.record?).map .array

theorem mapM_eq_some_map {α β : Type} {look : α → Option β} {get : α → β} {as : List α}
    (h : ∀ a ∈ as, look a = some (get a)) : as.mapM look = some (as.map get) := by
  induction as with
  | nil => rfl
  | cons a as ih =>
    rw [List.mapM_cons, h a List.mem_cons_self, ih fun b hb => h b (List.mem_cons_of_mem _ hb)]
    rfl

theorem foldlM_eq_some_foldl {α β : Type} {look : β → α → Option β} {next : β → α → β}
    {as : List α} (h : ∀ a ∈ as, ∀ b, look b a = some (next b a)) (b : β) :
    as.foldlM look b = some (as.foldl next b) := by
  induction as generalizing b with
  | nil => rfl
  | cons a as ih =>
    rw [List.foldlM_cons, h a List.mem_cons_self, List.foldl_cons]
    exact ih (fun c hc => h c (List.mem_cons_of_mem _ hc)) _

/-- In a well-formed table the cells of all rows are there. -/
theorem WellFormed.getElem?_values (hf : f.WellFormed) (hc : c ∈ f.columns) {i : Nat}
    (hi : i < f.len) : c.values[i]? = some (c.values.getD i .null) :=
  getElem?_eq_getD (by rwa [hf.length_values c hc]) Cell.null

theorem WellFormed.take?_eq_some (hf : f.WellFormed) {rows : List Nat}
    (hrows : ∀ i ∈ rows, i < f.len) : f.take? rows = some (f.take rows) := by
  have hcolumn : ∀ c ∈ f.columns, (do
      let values ← rows.mapM fun i => c.values[i]?
      return (⟨c.name, values⟩ : Column)) =
        some ⟨c.name, rows.map fun i => c.values.getD i .null⟩ := by
    intro c hc
    rw [mapM_eq_some_map fun i hi => hf.getElem?_values hc (hrows i hi)]
    rfl
  rw [take?, mapM_eq_some_map hcolumn]
  rfl

/-- The positions that a mask keeps are positions of the mask. -/
theorem lt_length_of_mem_kept {mask : List Bool} {i : Nat} (h : i ∈ kept mask) :
    i < mask.length := by
  obtain ⟨⟨keep, j⟩, hmem, hkeep⟩ := List.mem_filterMap.mp h
  obtain ⟨-, hj, -⟩ := List.mem_zipIdx hmem
  dsimp only at hkeep
  split at hkeep
  · obtain rfl := Option.some.inj hkeep
    simpa using hj
  · exact nomatch hkeep

theorem WellFormed.filter?_eq_some (hf : f.WellFormed) {mask : List Bool}
    (hmask : mask.length ≤ f.len) : f.filter? mask = some (f.filter mask) :=
  hf.take?_eq_some fun _ hi => Nat.lt_of_lt_of_le (lt_length_of_mem_kept hi) hmask

theorem WellFormed.keyAt?_eq_some (hf : f.WellFormed) {columns : List Column}
    (hcolumns : ∀ c ∈ columns, c ∈ f.columns) {i : Nat} (hi : i < f.len) :
    keyAt? columns i = some (keyAt columns i) :=
  mapM_eq_some_map fun c hc => hf.getElem?_values (hcolumns c hc) hi

/-- Grouping finds all cells, whatever the keys. -/
theorem WellFormed.groups?_eq (hf : f.WellFormed) (keys : List String) :
    f.groups? keys = (f.groups keys).map some := by
  cases keys with
  | nil => rfl
  | cons key rest =>
    cases hcolumns : (key :: rest).mapM f.require with
    | error e => simp only [groups?, groups, hcolumns]; rfl
    | ok columns =>
      have hmem : ∀ c ∈ columns, c ∈ f.columns := by
        intro c hc
        obtain ⟨i, hi⟩ := List.mem_iff_getElem?.mp hc
        obtain ⟨name, -, hname⟩ := getElem?_of_mapM_eq_ok hcolumns hi
        exact (require_eq_ok hname).1
      have hkey : ∀ row ∈ List.range f.len, ∀ gs : List Group,
          ((keyAt? columns row).map fun key => addToGroup key row gs) =
            some (addToGroup (keyAt columns row) row gs) := by
        intro row hrow gs
        rw [hf.keyAt?_eq_some hmem (List.mem_range.mp hrow), Option.map_some]
      simp only [groups?, groups, hcolumns, ok_bind, foldlM_eq_some_foldl hkey]
      rfl

theorem WellFormed.record?_eq_some (hf : f.WellFormed) {i : Nat} (hi : i < f.len) :
    f.record? i = some (f.record i) := by
  have hcell : ∀ c ∈ f.columns, (c.values[i]?).map (fun cell => (c.name, cell.toJson)) =
      some (c.name, (c.values.getD i .null).toJson) := by
    intro c hc
    rw [hf.getElem?_values hc hi, Option.map_some]
  rw [record?, mapM_eq_some_map hcell]
  rfl

theorem WellFormed.toRecords?_eq_some (hf : f.WellFormed) : f.toRecords? = some f.toRecords := by
  rw [toRecords?, mapM_eq_some_map fun i hi => hf.record?_eq_some (List.mem_range.mp hi)]
  rfl

/-! ## Tables in use -/

/-- A table that is made and edited, where rows are taken that are there. -/
inductive Built : Frame → Prop where
  | empty : Built empty
  | withLen (n : Nat) : Built (withLen n)
  | ofColumns {cs : List Column} {f : Frame} (h : ofColumns cs = .ok f) : Built f
  | ofRecords {data : Json} {f : Frame} (h : ofRecords data = .ok f) : Built f
  /-- A column is added, or is refused and what it leaves stays in use. -/
  | insert {f : Frame} (hf : Built f) (c : Column) : Built (f.insertInPlace c).1
  | filter {f : Frame} (hf : Built f) {mask : List Bool} (hmask : mask.length ≤ f.len) :
      Built (f.filter mask)
  | take {f : Frame} (hf : Built f) {rows : List Nat} (hrows : ∀ i ∈ rows, i < f.len) :
      Built (f.take rows)

theorem wellFormed_inPlace (hf : f.WellFormed) (c : Column) :
    (f.insertInPlace c).1.WellFormed := by
  by_cases hfits : f.Fits c
  · rw [insertInPlace_of_fits hfits]
    exact wellFormed_insert hf (insert_of_fits hfits)
  · rw [insertInPlace_of_not_fits hfits]
    exact hf

/-- What every step keeps holds in the end. -/
theorem Built.wellFormed (h : Built f) : f.WellFormed := by
  induction h with
  | empty => exact wellFormed_withLen 0
  | withLen n => exact wellFormed_withLen n
  | ofColumns h => exact wellFormed_ofColumns h
  | ofRecords h => exact wellFormed_ofRecords h
  | insert _ c ih => exact wellFormed_inPlace ih c
  | filter _ _ ih => exact wellFormed_take ih _
  | take _ _ ih => exact wellFormed_take ih _

/-- What holds of a table in use. -/
structure Sound (f : Frame) : Prop where
  /-- The columns have different names and a cell for each row. -/
  wellFormed : f.WellFormed
  /-- A column is added if it has a cell for each row, or comes first to a table without rows. -/
  insert_isOk : ∀ c, (f.insert c).isOk = true ↔ f.Fits c
  /-- A column that is refused changes nothing. -/
  insert_error : ∀ c e, f.insert c = .error e → f.insertInPlace c = (f, .error e)
  /-- A column that is added changes no other column and no place. -/
  insert_ok : ∀ c g, f.insert c = .ok g → f.insertInPlace c = (g, .ok ()) ∧
    g.len = c.values.length ∧
    g.columns = if c.name ∈ f.names then f.columns.map fun d => if d.name = c.name then c else d
      else f.columns ++ [c]
  /-- No look-up misses a cell. -/
  take_found : ∀ rows, (∀ i ∈ rows, i < f.len) → f.take? rows = some (f.take rows)
  filter_found : ∀ mask, mask.length ≤ f.len → f.filter? mask = some (f.filter mask)
  groups_found : ∀ keys, f.groups? keys = (f.groups keys).map some
  records_found : f.toRecords? = some f.toRecords

theorem sound_of_wellFormed (hf : f.WellFormed) : f.Sound where
  wellFormed := hf
  insert_isOk := by
    intro c
    by_cases hfits : f.Fits c
    · rw [insert_of_fits hfits]
      exact iff_of_true rfl hfits
    · rw [insert_of_not_fits hfits]
      exact iff_of_false Bool.false_ne_true hfits
  insert_error := by
    intro c e herror
    by_cases hfits : f.Fits c
    · rw [insert_of_fits hfits] at herror
      cases herror
    · rw [insert_of_not_fits hfits] at herror
      cases herror
      exact insertInPlace_of_not_fits hfits
  insert_ok := by
    intro c g hok
    by_cases hfits : f.Fits c
    · rw [insert_of_fits hfits] at hok
      cases hok
      refine ⟨insertInPlace_of_fits hfits, rfl, ?_⟩
      split
      · next hold => exact putColumn_of_mem hf.nodup_names hold
      · next hnew => exact putColumn_of_not_mem hnew
    · rw [insert_of_not_fits hfits] at hok
      cases hok
  take_found _ hrows := hf.take?_eq_some hrows
  filter_found _ hmask := hf.filter?_eq_some hmask
  groups_found := hf.groups?_eq
  records_found := hf.toRecords?_eq_some

/-- **Tables stay in order.**  Whatever is done to a table, its columns have different names and a
cell for each row, a refused column leaves it as it was, an added one changes no other column and no
place, and no look-up misses a cell. -/
theorem sound_of_built (h : f.Built) : f.Sound := sound_of_wellFormed h.wellFormed

/-- A table that takes its length from its first column, refuses a longer one, has the column
replaced, and is filtered. -/
def edited : Frame :=
  let f := (withLen 3).take []
  let f := (f.insertInPlace ⟨"a", [.int 1, .int 2]⟩).1
  let f := (f.insertInPlace ⟨"b", [.null, .null, .null]⟩).1
  let f := (f.insertInPlace ⟨"a", [.int 3, .int 4]⟩).1
  f.filter [true]

theorem sound_of_built_edited :
    edited.Built ∧ edited = ⟨[⟨"a", [.int 3]⟩], 1⟩ ∧ edited.Sound := by
  have hbuilt : edited.Built := by
    refine Built.filter ?_ (by decide)
    exact (((Built.withLen 3).take (by simp)).insert _).insert _ |>.insert _
  exact ⟨hbuilt, by decide, sound_of_built hbuilt⟩

end Crosstab.Frame
