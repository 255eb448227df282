/-!
# Operators of expressions
-/

namespace Crosstab

/-- An operator between two scalars. -/
inductive BinaryOp where
  | add
  | sub
  | mul
  | div
  /-- Puts two texts together. -/
  | concat
  deriving DecidableEq, Repr

namespace BinaryOp

/-- All operators between scalars. -/
def all : List BinaryOp := [.add, .sub, .mul, .div, .concat]

/-- Every operator is listed. -/
theorem mem_all (op : BinaryOp) : op ∈ all := by cases op <;> decide

/-- The operator as it is written. -/
def symbol : BinaryOp → String
  | .add => "+"
  | .sub => "-"
  | .mul => "*"
  | .div => "/"
  | .concat => "||"

end BinaryOp

/-- A comparison between two scalars. -/
inductive Comparison where
  | eq
  | ne
  | gt
  | ge
  | lt
  | le
  deriving DecidableEq, Repr

namespace Comparison

/-- The comparison as it is written. -/
def symbol : Comparison → String
  | .eq => "="
  | .ne => "<>"
  | .gt => ">"
  | .ge => ">="
  | .lt => "<"
  | .le => "<="

/-- The ways in which comparisons may be written. -/
def spellings : List (String × Comparison) :=
  [("=", .eq), ("==", .eq), ("<>", .ne), ("!=", .ne), (">", .gt), (">=", .ge), ("<", .lt),
   ("<=", .le)]

/-- The comparison that a symbol stands for. -/
def ofSymbol? (s : String) : Option Comparison := spellings.lookup s

/-- Whether an outcome satisfies the comparison. -/
def accepts (op : Comparison) (o : Ordering) : Bool :=
  match op with
  | .eq => o == .eq
  | .ne => o != .eq
  | .gt => o == .gt
  | .ge => o != .lt
  | .lt => o == .lt
  | .le => o != .gt

end Comparison

/-- A connective between two predicates. -/
inductive Connective where
  | and
  | or
  deriving DecidableEq, Repr

/-- Which bounds of a range belong to it. -/
inductive Bounds where
  | both
  | left
  | right
  | neither
  deriving DecidableEq, Repr

namespace Bounds

/-- Whether the lower bound belongs to the range. -/
def withLower : Bounds → Bool
  | .both => true
  | .left => true
  | _ => false

/-- Whether the upper bound belongs to the range. -/
def withUpper : Bounds → Bool
  | .both => true
  | .right => true
  | _ => false

end Bounds

end Crosstab
