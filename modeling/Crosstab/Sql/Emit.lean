import Crosstab.Expr.Aggregate
import Crosstab.Sql.Form

/-!
# Expressions as SQL

An expression is written as a list of tokens for a dialect.  Writing fails for a float that is not
finite, for regular expressions that are refused, and for clauses that do not read.

Clauses as text are written by a function that is given; `Clause.emit` reads the text first.
-/

namespace Crosstab.Sql

/-- A way to write the clauses of an expression. -/
abbrev ClauseEmit (κ : Type) := κ → Outcome (List Token)

/-- A literal. -/
def literal (c : Cell) : Outcome Token :=
  match c with
  | .null => .ok .null
  | .bool b => .ok (.bool b)
  | .int n => .ok (.int n)
  | .float x => if x.isFinite then .ok (.float x) else reject (.nonFiniteLiteral x)
  | .text s => .ok (.string s)
  | .date _ => .ok (.date c.display)
  | .timestamp _ => .ok (.timestamp c.display)

/-- A quotient with a value for where it would be null; the value must be finite. -/
def quotient (d : Dialect) (numerator denominator : List Token) (fill : Binary64) :
    Outcome (List Token) :=
  if fill.isFinite then .ok (divideOr d numerator denominator fill)
  else reject (.nonFiniteLiteral fill)

/-- The mark of a comparison. -/
def comparisonMark : Comparison → Mark
  | .eq => .equal
  | .ne => .notEqual
  | .gt => .greater
  | .ge => .greaterEqual
  | .lt => .less
  | .le => .lessEqual

/-- The keyword of a connective. -/
def connectiveWord : Connective → Word
  | .and => .and
  | .or => .or

/-- The operator between two scalars. -/
def binary (d : Dialect) (op : BinaryOp) (left right : List Token) : List Token :=
  match op with
  | .add => between left (.mark .plus) right
  | .sub => between left (.mark .minus) right
  | .mul => between left (.mark .star) right
  | .div => divideOr d left right Binary64.zero
  | .concat => concat d left right

/-- A form with a negation in front, if there is one. -/
def negateIf (negated : Bool) (ts : List Token) : List Token := if negated then negate ts else ts

/-- A regular expression that is a literal must compile. -/
def checkPattern {κ : Type} (pattern : Scalar κ) (flags : String) : Outcome Unit :=
  match pattern with
  | .literal (.text s) => do let _ ← Pattern.compile s flags
  | _ => .ok ()

end Sql

open Sql (Token ClauseEmit)

mutual

/-- Writes a scalar. -/
def Scalar.emit {κ : Type} (h : ClauseEmit κ) (d : Dialect) : Scalar κ → Outcome (List Token)
  | .column name => .ok (Sql.column name)
  | .literal value => do return [← Sql.literal value]
  | .binary op l r => do
    let left ← l.emit h d
    let right ← r.emit h d
    return Sql.binary d op left right
  | .safeDiv n m fill => do
    let numerator ← n.emit h d
    let denominator ← m.emit h d
    Sql.quotient d numerator denominator fill
  | .coalesce args => do
    match ← Scalar.emitList h d args with
    | [] => return [.null]
    | forms => return Sql.call "COALESCE" forms
  | .caseWhen [] none => .ok [.null]
  | .caseWhen [] (some e) => e.emit h d
  | .caseWhen (b :: branches) none => do
    let body ← Scalar.emitBranches h d (b :: branches)
    return Sql.parens (.word .case :: body ++ [.space, .word .end])
  | .caseWhen (b :: branches) (some e) => do
    let body ← Scalar.emitBranches h d (b :: branches)
    let last ← e.emit h d
    return Sql.parens
      (.word .case :: body ++ [.space, .word .else, .space] ++ last ++ [.space, .word .end])
  | .fragment text => .ok (Sql.parens [.raw text])
termination_by structural e => e

/-- Writes some scalars. -/
def Scalar.emitList {κ : Type} (h : ClauseEmit κ) (d : Dialect) :
    List (Scalar κ) → Outcome (List (List Token))
  | [] => .ok []
  | e :: rest => do
    let form ← e.emit h d
    return form :: (← Scalar.emitList h d rest)
termination_by structural es => es

/-- Writes some branches of a case distinction. -/
def Scalar.emitBranches {κ : Type} (h : ClauseEmit κ) (d : Dialect) :
    List (Predicate κ × Scalar κ) → Outcome (List Token)
  | [] => .ok []
  | (p, e) :: rest => do
    let condition ← p.emit h d
    let value ← e.emit h d
    let later ← Scalar.emitBranches h d rest
    return [.space, .word .when, .space] ++ condition ++ [.space, .word .then, .space] ++ value
      ++ later
termination_by structural bs => bs

/-- Writes a predicate. -/
def Predicate.emit {κ : Type} (h : ClauseEmit κ) (d : Dialect) : Predicate κ → Outcome (List Token)
  | .compare op l r => do
    let left ← l.emit h d
    let right ← r.emit h d
    return Sql.between left (.mark (Sql.comparisonMark op)) right
  | .member _ [] => .ok (Sql.between [.int 1] (.mark .equal) [.int 0])
  | .member e (v :: values) => do
    let form ← e.emit h d
    let members ← (v :: values).mapM Sql.literal
    return Sql.between form (.word .in) (Sql.parens (Sql.commaList (members.map fun t => [t])))
  | .range e low high bounds => do
    let form ← e.emit h d
    let low ← Sql.literal low
    let high ← Sql.literal high
    let above := if bounds.withLower then Sql.Mark.greaterEqual else .greater
    let below := if bounds.withUpper then Sql.Mark.lessEqual else .less
    return Sql.parens
      (form ++ [.space, .mark above, .space, low, .space, .word .and, .space] ++ form
        ++ [.space, .mark below, .space, high])
  | .isNull e => do return Sql.parens ((← e.emit h d) ++ [.space, .word .isNull])
  | .join op l r => do
    let left ← l.emit h d
    let right ← r.emit h d
    return Sql.between left (.word (Sql.connectiveWord op)) right
  | .not p => do return Sql.negate (← p.emit h d)
  | .like e pattern ignoreCase negated => do
    let form ← e.emit h d
    let pattern ← pattern.emit h d
    return Sql.negateIf negated (Sql.likeMatch d form pattern ignoreCase)
  | .regex e pattern flags negated => do
    let flags ← Pattern.normalFlags flags
    Sql.checkPattern pattern flags
    let form ← e.emit h d
    let source ← pattern.emit h d
    return Sql.negateIf negated (Sql.regexSearch d form source flags)
  | .clause c => h c
termination_by structural p => p

end

/-! ## Expressions with clauses -/

/-- Writes a clause as the predicate that it stands for. -/
def Clause.emit (d : Dialect) : ClauseEmit Clause := fun c => do
  (← c.parsed).emit noClauses d

/-- An expression as text. -/
def Expr.sql (d : Dialect) (e : Expr) : Outcome String := do
  return Sql.render d (← e.emit (Clause.emit d) d)

/-- A condition as text. -/
def Condition.sql (d : Dialect) (p : Condition) : Outcome String := do
  return Sql.render d (← p.emit (Clause.emit d) d)

/-- A plain condition as text. -/
def PlainCondition.sql (d : Dialect) (p : PlainCondition) : Outcome String := do
  return Sql.render d (← p.emit noClauses d)

/-! ## Aggregates -/

namespace Aggregate

/-- A reduction around the form of a scalar. -/
def reductionForm (r : Reduction) (form : List Token) : List Token :=
  match r with
  | .sum => Sql.call "SUM" [form]
  | .mean => Sql.call "AVG" [form]
  | .min => Sql.call "MIN" [form]
  | .max => Sql.call "MAX" [form]
  | .count => Sql.call "COUNT" [form]
  | .distinct => Sql.call "COUNT" [.word .distinct :: .space :: form]

/-- Writes an aggregate. -/
def emit (d : Dialect) : Aggregate → Outcome (List Token)
  | reduce r e => do return reductionForm r (← e.emit (Clause.emit d) d)
  | countRows => .ok (Sql.call "COUNT" [[.mark .star]])
  | ratio n m fill => do
    let numerator ← n.emit (Clause.emit d) d
    let denominator ← m.emit (Clause.emit d) d
    Sql.quotient d (reductionForm .sum numerator) (reductionForm .sum denominator) fill

/-- An aggregate as text. -/
def sql (d : Dialect) (a : Aggregate) : Outcome String := do return Sql.render d (← a.emit d)

end Aggregate

end Crosstab
