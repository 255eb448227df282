import Crosstab.Expr.Eval

/-!
# Aliases in conditions

A condition on groups may name measures, but not every dialect knows the aliases of a statement
there.  `Condition.substitute` puts the text of the aggregate in place of each column that names
one.  Clauses are read on the way, so the outcome holds no clause any more.
-/

namespace Crosstab

/-- The texts that stand for some names; of several for one name the last counts. -/
abbrev Aliases := List (String × String)

/-- The text that stands for a name. -/
def Aliases.text? (aliases : Aliases) (name : String) : Option String := aliases.reverse.lookup name

mutual

/-- Puts texts in place of names in a scalar. -/
def Scalar.substitute {κ : Type} (h : κ → Outcome PlainCondition) (aliases : Aliases) :
    Scalar κ → Outcome (Scalar Empty)
  | .column name => match aliases.text? name with
    | some text => .ok (.fragment text)
    | none => .ok (.column name)
  | .literal value => .ok (.literal value)
  | .binary op l r => do
    return .binary op (← l.substitute h aliases) (← r.substitute h aliases)
  | .safeDiv n d fill => do
    return .safeDiv (← n.substitute h aliases) (← d.substitute h aliases) fill
  | .coalesce args => do return .coalesce (← Scalar.substituteList h aliases args)
  | .caseWhen branches none => do
    return .caseWhen (← Scalar.substituteBranches h aliases branches) none
  | .caseWhen branches (some e) => do
    return .caseWhen (← Scalar.substituteBranches h aliases branches)
      (some (← e.substitute h aliases))
  | .fragment text => .ok (.fragment text)
termination_by structural e => e

/-- Puts texts in place of names in some scalars. -/
def Scalar.substituteList {κ : Type} (h : κ → Outcome PlainCondition) (aliases : Aliases) :
    List (Scalar κ) → Outcome (List (Scalar Empty))
  | [] => .ok []
  | e :: rest => do
    return (← e.substitute h aliases) :: (← Scalar.substituteList h aliases rest)
termination_by structural es => es

/-- Puts texts in place of names in some branches. -/
def Scalar.substituteBranches {κ : Type} (h : κ → Outcome PlainCondition) (aliases : Aliases) :
    List (Predicate κ × Scalar κ) → Outcome (List (PlainCondition × Scalar Empty))
  | [] => .ok []
  | (p, e) :: rest => do
    let p ← p.substitute h aliases
    let e ← e.substitute h aliases
    return (p, e) :: (← Scalar.substituteBranches h aliases rest)
termination_by structural bs => bs

/-- Puts texts in place of names in a predicate. -/
def Predicate.substitute {κ : Type} (h : κ → Outcome PlainCondition) (aliases : Aliases) :
    Predicate κ → Outcome PlainCondition
  | .compare op l r => do
    return .compare op (← l.substitute h aliases) (← r.substitute h aliases)
  | .member e values => do return .member (← e.substitute h aliases) values
  | .range e low high bounds => do return .range (← e.substitute h aliases) low high bounds
  | .isNull e => do return .isNull (← e.substitute h aliases)
  | .join op l r => do return .join op (← l.substitute h aliases) (← r.substitute h aliases)
  | .not p => do return .not (← p.substitute h aliases)
  | .like e pattern ignoreCase negated => do
    return .like (← e.substitute h aliases) (← pattern.substitute h aliases) ignoreCase negated
  | .regex e pattern flags negated => do
    return .regex (← e.substitute h aliases) (← pattern.substitute h aliases) flags negated
  | .clause c => h c
termination_by structural p => p

end

/-- Reads a clause and puts texts in place of names in it. -/
def Clause.substitute (aliases : Aliases) (c : Clause) : Outcome PlainCondition := do
  (← c.parsed).substitute noClauses aliases

/-- Puts texts in place of names in a condition. -/
def Condition.substituted (p : Condition) (aliases : Aliases) : Outcome PlainCondition :=
  p.substitute (Clause.substitute aliases) aliases

end Crosstab
