import Crosstab.Frame.Basic

/-!
# Datasets

A `Dataset` is a base table together with columns derived from it.  The base never changes, and a
derived column never hides a column that is already there.
-/

namespace Crosstab

/-- A table with derived columns. -/
structure Dataset where
  /-- The table as it was given. -/
  base : Frame
  /-- The columns derived from it, in the order in which they were attached. -/
  derived : List Column
  deriving DecidableEq, Repr

namespace Dataset

/-- A dataset without derived columns. -/
def ofFrame (base : Frame) : Dataset := ⟨base, []⟩

/-- Whether there is a column of a name. -/
def hasColumn (ds : Dataset) (name : String) : Bool :=
  ds.base.hasColumn name || ds.derived.any (·.name == name)

/-- Attaches a derived column, unless there is a column of its name; the answer says whether it
was attached. -/
def attach (ds : Dataset) (c : Column) : Outcome (Bool × Dataset) :=
  if ds.hasColumn c.name then .ok (false, ds)
  else if c.values.length ≠ ds.base.len then
    reject (.lengthMismatch c.name ds.base.len c.values.length)
  else .ok (true, { ds with derived := ds.derived ++ [c] })

/-- The base together with the derived columns. -/
def frame (ds : Dataset) : Outcome Frame := ds.derived.foldlM Frame.insert ds.base

/-- Without derived columns the frame is the base. -/
theorem frame_ofFrame (f : Frame) : (ofFrame f).frame = .ok f := rfl

/-- Attaching keeps the base. -/
theorem base_of_attach {ds ds' : Dataset} {c : Column} {attached : Bool}
    (h : ds.attach c = .ok (attached, ds')) : ds'.base = ds.base := by
  unfold attach at h
  split at h
  · cases h; rfl
  · split at h
    · cases h
    · cases h; rfl

/-- A column whose name is taken is not attached. -/
theorem attach_of_hasColumn {ds : Dataset} {c : Column} (h : ds.hasColumn c.name = true) :
    ds.attach c = .ok (false, ds) := by
  simp [attach, h]

end Dataset

end Crosstab
