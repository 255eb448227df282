import Crosstab.Regex.CharSet

/-!
# Sets of characters as intervals

Every `CharSet` is a union of intervals of code points.  A list of intervals is in order when they
increase and neither overlap nor touch; a set has one such list, which `CharSet.intervals` finds.
Surrogates are no characters and belong to no interval.
-/

namespace Crosstab

/-- The numbers from `lo` to `hi`. -/
structure Interval where
  /-- The least number. -/
  lo : Nat
  /-- The greatest number. -/
  hi : Nat
  deriving DecidableEq, Repr

namespace Interval

/-- Whether a number lies in the interval. -/
def has (i : Interval) (n : Nat) : Bool := i.lo ≤ n && n ≤ i.hi

/-- The interval of one number. -/
def point (n : Nat) : Interval := ⟨n, n⟩

/-- Puts an interval in front of intervals that start no earlier, joining it with those that it
overlaps or touches. -/
def join (i : Interval) : List Interval → List Interval
  | [] => [i]
  | j :: rest =>
    if j.lo ≤ i.hi + 1 then join ⟨i.lo, max i.hi j.hi⟩ rest else i :: join j rest

/-- The union of some intervals, in order. -/
def inOrder (is : List Interval) : List Interval :=
  match is.mergeSort fun a b => a.lo ≤ b.lo with
  | [] => []
  | i :: rest => join i rest

/-- The gaps between intervals in order, from a number to the last code point. -/
def gaps (start : Nat) : List Interval → List Interval
  | [] => if start ≤ 0x10FFFF then [⟨start, 0x10FFFF⟩] else []
  | i :: rest =>
    if start < i.lo then ⟨start, i.lo - 1⟩ :: gaps (i.hi + 1) rest else gaps (i.hi + 1) rest

/-- The surrogates. -/
def surrogates : Interval := ⟨0xD800, 0xDFFF⟩

/-- The characters outside some intervals. -/
def compl (is : List Interval) : List Interval := gaps 0 (inOrder (surrogates :: is))

/-- The characters in intervals of two lists. -/
def inter (as bs : List Interval) : List Interval := compl (compl as ++ compl bs)

/-- The characters in intervals of exactly one of two lists. -/
def symmetric (as bs : List Interval) : List Interval :=
  inOrder (inter as (compl bs) ++ inter bs (compl as))

/-! ## Runs -/

/-- The intervals of a run. -/
def ofRun (r : Text.Run) : List Interval :=
  if r.step = 1 then [⟨r.first, r.last⟩]
  else (List.range ((r.last - r.first) / r.step + 1)).map fun i => point (r.first + r.step * i)

/-! ## Letter case -/

/-- The code points that have a simple folding, with their foldings. -/
def foldings : List (Nat × Nat) :=
  Text.foldShifts.flatMap fun s =>
    (ofRun s.run).flatMap fun i =>
      (List.range (i.hi + 1 - i.lo)).filterMap fun d =>
        (s.image? (i.lo + d)).map fun key => (i.lo + d, key)

/-- All that has the same simple folding as a member of some intervals: the members, their
foldings, and whatever folds to one of these. -/
def fold (is : List Interval) : List Interval :=
  let folded := foldings.filterMap fun (n, key) =>
    if is.any (·.has n) then some (point key) else none
  let keys := inOrder (is ++ folded)
  let others := foldings.filterMap fun (n, key) =>
    if keys.any (·.has key) then some (point n) else none
  inOrder (keys ++ others)

/-- The members of some intervals with both cases of their ASCII letters. -/
def foldAscii (is : List Interval) : List Interval :=
  let letters := (List.range 26).flatMap fun i => [(65 + i, 97 + i), (97 + i, 65 + i)]
  inOrder (is ++ letters.filterMap fun (n, other) =>
    if is.any (·.has n) then some (point other) else none)

end Interval

/-- The intervals of a set, in order. -/
def CharSet.intervals : CharSet → List Interval
  | runs rs => Interval.compl (Interval.compl (rs.flatMap Interval.ofRun))
  | union a b => Interval.inOrder (a.intervals ++ b.intervals)
  | inter a b => Interval.inter a.intervals b.intervals
  | symmetric a b => Interval.symmetric a.intervals b.intervals
  | compl a => Interval.compl a.intervals
  | fold a => Interval.fold a.intervals
  | foldAscii a => Interval.foldAscii a.intervals

end Crosstab
