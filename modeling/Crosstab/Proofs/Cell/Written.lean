import Crosstab.Cell.Written
import Crosstab.Proofs.Calendar.RoundTrip
import Crosstab.Proofs.Json.Record

/-!
# Cells that read back

Neither a structured form nor a statement has a number for a float that is not finite
(`Cell.Finite`), and a clause has no literal for a date or a timestamp (`Cell.Portable`).  A cell
with a finite float, or without a float, is read back from its structured form
(`Cell.ofJson?_toTaggedJson`).
-/

namespace Crosstab

/-- The cell is no float, or a finite one. -/
def Cell.Finite : Cell → Prop
  | .float x => x.isFinite = true
  | _ => True

/-- The cell has a literal in clauses: it is no date and no timestamp, and a float is finite. -/
def Cell.Portable : Cell → Prop
  | .float x => x.isFinite = true
  | .date _ => False
  | .timestamp _ => False
  | _ => True

theorem int64?_toInt (n : Int64) : int64? n.toInt = some n := by
  rw [int64?, if_pos ⟨Int64.minValue_le_toInt n, Int64.toInt_le n⟩, Int64.ofInt_toInt]

theorem int64?_eq_some_iff {n : Int} {m : Int64} : int64? n = some m ↔ m.toInt = n := by
  constructor
  · intro h
    unfold int64? at h
    split at h
    · next hrange =>
      rw [← Option.some.inj h, Int64.toInt_ofInt_of_le hrange.1]
      exact Int.lt_add_one_of_le hrange.2
    · exact absurd h nofun
  · rintro rfl
    exact int64?_toInt m

/-! ## Structured forms -/

theorem canonical_ofFloat (x : Binary64) : (Json.ofFloat x).canonical = .ofFloat x := by
  unfold Json.ofFloat
  split <;> rfl

theorem float?_ofFloat {x : Binary64} (h : x.isFinite = true) :
    Json.float? (Json.ofFloat x).canonical = some x := by
  rw [canonical_ofFloat, Json.ofFloat, if_pos h]
  rfl

theorem Cell.canonical_toTaggedJson (c : Cell) : c.toTaggedJson.canonical = c.toTaggedJson := by
  cases c with
  | float x => exact canonical_ofFloat x
  | _ => rfl

/-- A cell with a finite float, or without a float, is read back. -/
theorem Cell.ofJson?_toTaggedJson {c : Cell} (h : c.Finite) :
    Cell.ofJson? c.toTaggedJson.canonical = some c := by
  rw [canonical_toTaggedJson]
  cases c with
  | null => rfl
  | bool b => rfl
  | int n => simp [toTaggedJson, toJson, Json.whole, ofJson?, ofNumber, int64?_toInt]
  | float x =>
    have hx : x.isFinite = true := h
    simp [toTaggedJson, toJson, Json.ofFloat, hx, ofJson?, ofNumber]
  | text s => rfl
  | date d => simp [toTaggedJson, ofJson?, Calendar.dateOf?_dateText]
  | timestamp t => simp [toTaggedJson, ofJson?, Calendar.timestampOf?_timestampText]

theorem Cell.listOfJson?_toTaggedJson {cs : List Cell} (h : ∀ c ∈ cs, c.Finite) :
    Cell.listOfJson? (Json.array (cs.map Cell.toTaggedJson)).canonical = some cs := by
  have hlist := Json.list?_canonical fun c hc => Cell.ofJson?_toTaggedJson (h c hc)
  rwa [Json.canonical_array] at hlist ⊢

end Crosstab
