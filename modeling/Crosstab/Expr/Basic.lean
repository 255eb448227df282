import Crosstab.Cell.Basic
import Crosstab.Clause.Basic
import Crosstab.Expr.Operator

/-!
# Expressions

A `Scalar` gives a cell for every row of a table and a `Predicate` a truth value.  The two types
contain each other: a predicate compares scalars, and a case distinction chooses by predicates.

Both have a parameter: the type of the clauses that a predicate may hold as text.  In an
expression that a person writes it is `Clause`.  In an expression read from the text of a clause it
is `Empty`, since such an expression holds no clause in turn.
-/

namespace Crosstab

mutual

/-- An expression with a cell for every row. -/
inductive Scalar (κ : Type) where
  /-- The cell of a column. -/
  | column (name : String)
  /-- The same cell in every row. -/
  | literal (value : Cell)
  | binary (op : BinaryOp) (left right : Scalar κ)
  /-- A quotient that has a fixed value where the denominator is zero or null. -/
  | safeDiv (numerator denominator : Scalar κ) (fill : Binary64)
  /-- The first cell that is not null. -/
  | coalesce (args : List (Scalar κ))
  /-- The scalar of the first branch whose predicate is true. -/
  | caseWhen (branches : List (Predicate κ × Scalar κ)) (otherwise : Option (Scalar κ))
  /-- Text that only a backend can evaluate. -/
  | fragment (text : String)

/-- An expression with a truth value for every row. -/
inductive Predicate (κ : Type) where
  | compare (op : Comparison) (left right : Scalar κ)
  | member (expr : Scalar κ) (values : List Cell)
  | range (expr : Scalar κ) (low high : Cell) (bounds : Bounds)
  | isNull (expr : Scalar κ)
  | join (op : Connective) (left right : Predicate κ)
  | not (expr : Predicate κ)
  /-- A match with a pattern of wildcards. -/
  | like (expr pattern : Scalar κ) (ignoreCase negated : Bool)
  /-- A search for a regular expression. -/
  | regex (expr pattern : Scalar κ) (flags : String) (negated : Bool)
  /-- A condition as text. -/
  | clause (c : κ)

end

deriving instance Repr for Scalar, Predicate
deriving instance BEq for Scalar, Predicate

/-- A scalar that may hold clauses as text. -/
abbrev Expr := Scalar Clause

/-- A predicate that may hold clauses as text. -/
abbrev Condition := Predicate Clause

/-- A predicate without clauses as text. -/
abbrev PlainCondition := Predicate Empty

/-! ## Changing the clauses -/

mutual

/-- Puts a predicate in place of every clause of a scalar. -/
def Scalar.bindClauses {κ μ : Type} (f : κ → Predicate μ) : Scalar κ → Scalar μ
  | .column name => .column name
  | .literal value => .literal value
  | .binary op l r => .binary op (l.bindClauses f) (r.bindClauses f)
  | .safeDiv n d fill => .safeDiv (n.bindClauses f) (d.bindClauses f) fill
  | .coalesce args => .coalesce (Scalar.bindClausesList f args)
  | .caseWhen branches none => .caseWhen (Scalar.bindClausesBranches f branches) none
  | .caseWhen branches (some e) =>
    .caseWhen (Scalar.bindClausesBranches f branches) (some (e.bindClauses f))
  | .fragment text => .fragment text
termination_by structural e => e

/-- Puts a predicate in place of every clause of some scalars. -/
def Scalar.bindClausesList {κ μ : Type} (f : κ → Predicate μ) : List (Scalar κ) → List (Scalar μ)
  | [] => []
  | e :: rest => e.bindClauses f :: Scalar.bindClausesList f rest
termination_by structural es => es

/-- Puts a predicate in place of every clause of some branches. -/
def Scalar.bindClausesBranches {κ μ : Type} (f : κ → Predicate μ) :
    List (Predicate κ × Scalar κ) → List (Predicate μ × Scalar μ)
  | [] => []
  | (p, e) :: rest => (p.bindClauses f, e.bindClauses f) :: Scalar.bindClausesBranches f rest
termination_by structural bs => bs

/-- Puts a predicate in place of every clause of a predicate. -/
def Predicate.bindClauses {κ μ : Type} (f : κ → Predicate μ) : Predicate κ → Predicate μ
  | .compare op l r => .compare op (l.bindClauses f) (r.bindClauses f)
  | .member e values => .member (e.bindClauses f) values
  | .range e low high bounds => .range (e.bindClauses f) low high bounds
  | .isNull e => .isNull (e.bindClauses f)
  | .join op l r => .join op (l.bindClauses f) (r.bindClauses f)
  | .not p => .not (p.bindClauses f)
  | .like e pattern ignoreCase negated =>
    .like (e.bindClauses f) (pattern.bindClauses f) ignoreCase negated
  | .regex e pattern flags negated =>
    .regex (e.bindClauses f) (pattern.bindClauses f) flags negated
  | .clause c => f c
termination_by structural p => p

end

/-- A predicate without clauses, as one that may hold clauses. -/
def Predicate.widen {κ : Type} (p : PlainCondition) : Predicate κ := p.bindClauses fun c => nomatch c

/-! ## Building -/

namespace Scalar

variable {κ : Type}

/-- The cell of a literal. -/
def literal? : Scalar κ → Option Cell
  | .literal value => some value
  | _ => none

/-- A text as a literal. -/
def ofText (s : String) : Scalar κ := .literal (.text s)

/-- A quotient that is zero where it would be null. -/
def dividedBy (numerator denominator : Scalar κ) : Scalar κ := .safeDiv numerator denominator Binary64.zero

/-- A predicate that is true where the scalar is not null. -/
def notNull (e : Scalar κ) : Predicate κ := .not (.isNull e)

/-- A predicate that is true where the text of the scalar holds another text. -/
def contains (e sub : Scalar κ) (ignoreCase : Bool) : Predicate κ :=
  let pattern : Scalar κ := match sub with
    | .literal (.text s) => ofText ("%" ++ s ++ "%")
    | _ => .binary .concat (.binary .concat (ofText "%") sub) (ofText "%")
  .like e pattern ignoreCase false

end Scalar

/-- The conjunction of some predicates, if there are any. -/
def Predicate.conjunction? {κ : Type} : List (Predicate κ) → Option (Predicate κ)
  | [] => none
  | p :: rest => some (rest.foldl (.join .and) p)

/-! ## Columns -/

mutual

/-- The columns that a scalar names, in the order of the text. -/
def Scalar.columns {κ : Type} (f : κ → List String) : Scalar κ → List String
  | .column name => [name]
  | .literal _ => []
  | .binary _ l r => l.columns f ++ r.columns f
  | .safeDiv n d _ => n.columns f ++ d.columns f
  | .coalesce args => Scalar.columnsOfList f args
  | .caseWhen branches none => Scalar.columnsOfBranches f branches
  | .caseWhen branches (some e) => Scalar.columnsOfBranches f branches ++ e.columns f
  | .fragment _ => []
termination_by structural e => e

/-- The columns that some scalars name. -/
def Scalar.columnsOfList {κ : Type} (f : κ → List String) : List (Scalar κ) → List String
  | [] => []
  | e :: rest => e.columns f ++ Scalar.columnsOfList f rest
termination_by structural es => es

/-- The columns that some branches name. -/
def Scalar.columnsOfBranches {κ : Type} (f : κ → List String) :
    List (Predicate κ × Scalar κ) → List String
  | [] => []
  | (p, e) :: rest => p.columns f ++ e.columns f ++ Scalar.columnsOfBranches f rest
termination_by structural bs => bs

/-- The columns that a predicate names. -/
def Predicate.columns {κ : Type} (f : κ → List String) : Predicate κ → List String
  | .compare _ l r => l.columns f ++ r.columns f
  | .member e _ => e.columns f
  | .range e _ _ _ => e.columns f
  | .isNull e => e.columns f
  | .join _ l r => l.columns f ++ r.columns f
  | .not p => p.columns f
  | .like e pattern _ _ => e.columns f ++ pattern.columns f
  | .regex e pattern _ _ => e.columns f ++ pattern.columns f
  | .clause c => f c
termination_by structural p => p

end

/-- Puts a name into a sorted list of names, once. -/
def insertName (name : String) : List String → List String
  | [] => [name]
  | other :: rest =>
    if name < other then name :: other :: rest
    else if name = other then other :: rest
    else other :: insertName name rest

theorem mem_insertName {a name : String} {names : List String} :
    a ∈ insertName name names ↔ a = name ∨ a ∈ names := by
  induction names with
  | nil => simp [insertName]
  | cons other rest ih =>
    unfold insertName
    split
    · simp
    · split
      · simp_all
      · simp only [List.mem_cons, ih]
        constructor
        · rintro (h | h | h)
          · exact .inr (.inl h)
          · exact .inl h
          · exact .inr (.inr h)
        · rintro (h | h | h)
          · exact .inr (.inl h)
          · exact .inl h
          · exact .inr (.inr h)

/-- The different names of a list, sorted. -/
def sortedNames (names : List String) : List String := names.foldl (fun s n => insertName n s) []

/-- The columns that a predicate without clauses reads, sorted. -/
def PlainCondition.dependencies (p : PlainCondition) : List String :=
  sortedNames (p.columns fun c => nomatch c)

end Crosstab
