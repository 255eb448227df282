import Crosstab.Fault
import Crosstab.Pattern

/-!
# Operations on cells

What the operators of expressions do to the cells of one row.

Truth values have three cases: true, false and unknown, which is `none`.  A comparison with a null
is unknown, and the connectives follow Kleene: a side that decides alone does so even when the
other one is unknown.
-/

namespace Crosstab

/-! ## Truth values -/

/-- True, false or unknown. -/
abbrev Truth := Option Bool

namespace Truth

/-- False if a side is false, true if both are true. -/
def and : Truth → Truth → Truth
  | some false, _ => some false
  | _, some false => some false
  | some true, some true => some true
  | _, _ => none

/-- True if a side is true, false if both are false. -/
def or : Truth → Truth → Truth
  | some true, _ => some true
  | _, some true => some true
  | some false, some false => some false
  | _, _ => none

/-- The opposite; unknown stays unknown. -/
def not (t : Truth) : Truth := t.map (!·)

/-- Joins two truth values. -/
def join (op : Connective) (a b : Truth) : Truth :=
  match op with
  | .and => a.and b
  | .or => a.or b

/-! ### Laws -/

theorem and_comm (a b : Truth) : a.and b = b.and a := by
  rcases a with _ | _ | _ <;> rcases b with _ | _ | _ <;> rfl

theorem or_comm (a b : Truth) : a.or b = b.or a := by
  rcases a with _ | _ | _ <;> rcases b with _ | _ | _ <;> rfl

/-- A conjunction fails where a side fails. -/
theorem not_and (a b : Truth) : (a.and b).not = a.not.or b.not := by
  rcases a with _ | _ | _ <;> rcases b with _ | _ | _ <;> rfl

/-- A disjunction fails where both sides fail. -/
theorem not_or (a b : Truth) : (a.or b).not = a.not.and b.not := by
  rcases a with _ | _ | _ <;> rcases b with _ | _ | _ <;> rfl

theorem not_not (t : Truth) : t.not.not = t := by
  cases t with
  | none => rfl
  | some b => cases b <;> rfl

end Truth

namespace Cell

/-! ## Arithmetic -/

/-- The number of an operand. -/
def operand (op : BinaryOp) (c : Cell) : Outcome Binary64 :=
  match c.number? with
  | some x => .ok x
  | none => reject (.notOperand op c)

/-- A quotient; a null on either side and a zero below give `fill`. -/
def safeDivide (numerator denominator : Cell) (fill : Binary64) : Outcome Cell :=
  if numerator.isNull || denominator.isNull then .ok (.float fill)
  else do
    let d ← operand .div denominator
    if d.isZero then return .float fill
    else return .float ((← operand .div numerator) / d)

/-- The exact result of an operator on whole numbers, if it fits 64 bits. -/
def wholeResult? (op : BinaryOp) (a b : Cell) : Option Int64 :=
  match a, b with
  | .int x, .int y => match op with
    | .add => int64? (x.toInt + y.toInt)
    | .sub => int64? (x.toInt - y.toInt)
    | .mul => int64? (x.toInt * y.toInt)
    | _ => none
  | _, _ => none

/-- The result of an operator on floats. -/
def floatResult (op : BinaryOp) (x y : Binary64) : Binary64 :=
  match op with
  | .add => x + y
  | .sub => x - y
  | .mul => x * y
  | _ => x / y

/-- The result of an operator.  A null makes it null, except for division, which gives zero then.
Whole numbers stay whole as long as the result fits. -/
def operate (op : BinaryOp) (a b : Cell) : Outcome Cell :=
  match op with
  | .div => safeDivide a b Binary64.zero
  | .concat =>
    if a.isNull || b.isNull then .ok .null else .ok (.text (a.display ++ b.display))
  | op =>
    if a.isNull || b.isNull then .ok .null
    else match wholeResult? op a b with
      | some n => .ok (.int n)
      | none => do return .float (floatResult op (← operand op a) (← operand op b))

/-! ## Comparisons -/

/-- Whether a comparison holds. -/
def satisfies (op : Comparison) (a b : Cell) : Truth :=
  match op with
  | .eq => a.sqlEq? b
  | .ne => (a.sqlEq? b).map (!·)
  | op => (a.compare? b).map op.accepts

/-- Whether a cell is a member of a list; nothing is a member of the empty list. -/
def memberOf (c : Cell) (values : List Cell) : Truth :=
  if values.isEmpty then some false
  else if c.isNull then none
  else if values.any fun v => c.sqlEq? v == some true then some true
  else if values.any isNull then none
  else some false

/-- Whether a cell lies in a range. -/
def inRange (c low high : Cell) (bounds : Bounds) : Truth :=
  let above := (c.compare? low).map fun o => if bounds.withLower then o != .lt else o == .gt
  let below := (c.compare? high).map fun o => if bounds.withUpper then o != .gt else o == .lt
  Truth.and above below

/-! ## Patterns -/

/-- Whether a cell matches a pattern that is compiled by `compile`; both are taken as text. -/
def matchesPattern (compile : String → Outcome Regex) (c pattern : Cell) (negated : Bool) :
    Outcome Truth :=
  if c.isNull || pattern.isNull then .ok none
  else do
    let r ← compile pattern.display
    return some (r.matchesIn c.display != negated)

/-- Compiles a pattern unless it is the one that was compiled last. -/
def compileNext (compile : String → Outcome Regex) (last : Option (String × Regex))
    (source : String) : Outcome Regex :=
  match last with
  | some (s, r) => if s = source then .ok r else compile source
  | none => compile source

/-- Whether the cells of some rows match the patterns beside them.  Rows mostly have the same
pattern, so the last one is kept. -/
def matchPatterns (compile : String → Outcome Regex) (negated : Bool)
    (last : Option (String × Regex)) : List (Cell × Cell) → Outcome (List Truth)
  | [] => .ok []
  | (c, pattern) :: rows =>
    if c.isNull || pattern.isNull then do
      return none :: (← matchPatterns compile negated last rows)
    else do
      let r ← compileNext compile last pattern.display
      let truth := some (r.matchesIn c.display != negated)
      return truth :: (← matchPatterns compile negated (some (pattern.display, r)) rows)

theorem compileNext_eq {compile : String → Outcome Regex} {last : Option (String × Regex)}
    (h : ∀ s r, last = some (s, r) → compile s = .ok r) (source : String) :
    compileNext compile last source = compile source := by
  unfold compileNext
  split
  · next s r =>
    split
    · next heq => rw [← heq, h s r rfl]
    · rfl
  · rfl

/-- Keeping the last pattern changes no answer. -/
theorem matchPatterns_eq_mapM {compile : String → Outcome Regex} {negated : Bool}
    (rows : List (Cell × Cell)) {last : Option (String × Regex)}
    (h : ∀ s r, last = some (s, r) → compile s = .ok r) :
    matchPatterns compile negated last rows =
      rows.mapM fun row => row.1.matchesPattern compile row.2 negated := by
  induction rows generalizing last with
  | nil => rfl
  | cons row rows ih =>
    obtain ⟨c, pattern⟩ := row
    rw [matchPatterns, List.mapM_cons, matchesPattern]
    split
    · rw [ih h]
      rfl
    · rw [compileNext_eq h]
      cases hr : compile pattern.display with
      | error e => rfl
      | ok r =>
        have hlast : ∀ s q, some (pattern.display, r) = some (s, q) → compile s = .ok q := by
          rintro s q ⟨⟩
          exact hr
        have := ih hlast
        simp only [bind, Except.bind, this, pure, Except.pure]

end Cell

end Crosstab
