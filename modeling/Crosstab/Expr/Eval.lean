import Crosstab.Clause.Parser
import Crosstab.Expr.Row
import Crosstab.Frame.Basic

/-!
# Evaluation

An expression is evaluated column by column over a table: every part gives a list with an entry for
each row.  Two forms look at fewer rows.  A case distinction evaluates each predicate on the rows
that no earlier branch took, and each scalar on the rows that its branch took.  The first cell that
is not null is searched argument by argument, and the search ends when no row is open.

Clauses as text are evaluated by a function that is given; `Clause.eval` reads the text first.
-/

namespace Crosstab

/-- A way to evaluate the clauses of an expression. -/
abbrev ClauseEval (κ : Type) := κ → Frame → Outcome (List Truth)

/-- Puts cells at some positions of a list. -/
def placeAt (rows : List Nat) (values : List Cell) (out : List Cell) : List Cell :=
  (rows.zip values).foldl (fun out (i, v) => out.set i v) out

/-- Fills the nulls of a list from another one. -/
def fillNulls (out values : List Cell) : List Cell :=
  out.zipWith (fun old new => if old.isNull then new else old) values

/-- Splits positions into those where a truth value is true and the others. -/
def splitHits (rows : List Nat) (hits : List Truth) : List Nat × List Nat :=
  let (yes, no) := (rows.zip hits).partition fun (_, hit) => hit == some true
  (yes.map (·.1), no.map (·.1))

mutual

/-- Evaluates a scalar. -/
def Scalar.eval {κ : Type} (h : ClauseEval κ) (f : Frame) : Scalar κ → Outcome (List Cell)
  | .column name => do return (← f.require name).values
  | .literal value => .ok (List.replicate f.len value)
  | .binary op l r => do
    let ls ← l.eval h f
    let rs ← r.eval h f
    (ls.zip rs).mapM fun (a, b) => Cell.operate op a b
  | .safeDiv n d fill => do
    let ns ← n.eval h f
    let ds ← d.eval h f
    (ns.zip ds).mapM fun (a, b) => Cell.safeDivide a b fill
  | .coalesce args => Scalar.evalFirst h f (List.replicate f.len .null) args
  | .caseWhen branches none => do
    return (← Scalar.evalBranches h f (List.range f.len) (List.replicate f.len .null) branches).1
  | .caseWhen branches (some e) => do
    let (out, rows) ←
      Scalar.evalBranches h f (List.range f.len) (List.replicate f.len .null) branches
    if rows.isEmpty then return out
    else return placeAt rows (← e.eval h (f.take rows)) out
  | .fragment text => reject (.notEvaluable text)
termination_by structural e => e

/-- Fills the nulls of `out` from some scalars in turn, as long as there are nulls. -/
def Scalar.evalFirst {κ : Type} (h : ClauseEval κ) (f : Frame) (out : List Cell) :
    List (Scalar κ) → Outcome (List Cell)
  | [] => .ok out
  | e :: rest =>
    if out.all fun c => !c.isNull then .ok out
    else do
      let values ← e.eval h f
      Scalar.evalFirst h f (fillNulls out values) rest
termination_by structural es => es

/-- Evaluates some branches for the rows at some positions; the answer holds the cells and the
positions that no branch took. -/
def Scalar.evalBranches {κ : Type} (h : ClauseEval κ) (f : Frame) (rows : List Nat)
    (out : List Cell) : List (Predicate κ × Scalar κ) → Outcome (List Cell × List Nat)
  | [] => .ok (out, rows)
  | (p, e) :: rest =>
    if rows.isEmpty then .ok (out, rows)
    else do
      let hits ← p.eval h (f.take rows)
      let (taken, left) := splitHits rows hits
      if taken.isEmpty then Scalar.evalBranches h f left out rest
      else
        let values ← e.eval h (f.take taken)
        Scalar.evalBranches h f left (placeAt taken values out) rest
termination_by structural bs => bs

/-- Evaluates a predicate. -/
def Predicate.eval {κ : Type} (h : ClauseEval κ) (f : Frame) : Predicate κ → Outcome (List Truth)
  | .compare op l r => do
    let ls ← l.eval h f
    let rs ← r.eval h f
    return (ls.zip rs).map fun (a, b) => Cell.satisfies op a b
  | .member e values => do return (← e.eval h f).map fun c => c.memberOf values
  | .range e low high bounds => do return (← e.eval h f).map fun c => c.inRange low high bounds
  | .isNull e => do return (← e.eval h f).map fun c => some c.isNull
  | .join op l r => do
    let ls ← l.eval h f
    let rs ← r.eval h f
    return (ls.zip rs).map fun (a, b) => Truth.join op a b
  | .not p => do return (← p.eval h f).map Truth.not
  | .like e pattern ignoreCase negated => do
    let cs ← e.eval h f
    let ps ← pattern.eval h f
    Cell.matchPatterns (fun s => Pattern.compileLike s ignoreCase) negated none (cs.zip ps)
  | .regex e pattern flags negated => do
    let flags ← Pattern.normalFlags flags
    let cs ← e.eval h f
    let ps ← pattern.eval h f
    Cell.matchPatterns (fun s => Pattern.compile s flags) negated none (cs.zip ps)
  | .clause c => h c f
termination_by structural p => p

end

/-- There are no clauses in a plain condition. -/
def noClauses {α : Sort u} (c : Empty) : α := nomatch c

/-- The predicate that a clause stands for. -/
def Clause.parsed (c : Clause) : Outcome PlainCondition := (Clause.predicate c).mapError .clause

/-- Evaluates a clause as the predicate that it stands for. -/
def Clause.eval : ClauseEval Clause := fun c f => do (← c.parsed).eval noClauses f

/-- Evaluates an expression. -/
def Expr.evaluate (e : Expr) (f : Frame) : Outcome (List Cell) := e.eval Clause.eval f

/-- Evaluates a condition. -/
def Condition.evaluate (p : Condition) (f : Frame) : Outcome (List Truth) := p.eval Clause.eval f

/-- The rows in which a condition is true. -/
def Condition.mask (p : Condition) (f : Frame) : Outcome (List Bool) := do
  return (← p.evaluate f).map fun t => t == some true

/-! ## Columns read -/

/-- The columns that a clause names; text that does not read names none. -/
def Clause.columns (c : Clause) : List String :=
  match Clause.predicate c with
  | .ok p => p.columns noClauses
  | .error _ => []

/-- The columns that an expression reads, sorted. -/
def Expr.dependencies (e : Expr) : List String := sortedNames (e.columns Clause.columns)

/-- The columns that a condition reads, sorted. -/
def Condition.dependencies (p : Condition) : List String := sortedNames (p.columns Clause.columns)

end Crosstab
