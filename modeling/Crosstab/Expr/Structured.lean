import Crosstab.Cell.Written
import Crosstab.Expr.Aggregate
import Crosstab.Json.Record

/-!
# Expressions as structured values

An expression is written as a tagged record whose tag, `kind`, comes first and whose other fields
come in a fixed order.  Every field is written; on reading, those that have a default may be
missing.
-/

namespace Crosstab

/-! ## Names of operators -/

/-- The names of the connectives. -/
def Connective.choices : List (String × Connective) := [("and", .and), ("or", .or)]

/-- The name of a connective. -/
def Connective.name : Connective → String
  | .and => "and"
  | .or => "or"

/-- The name of the bounds of a range. -/
def Bounds.name : Bounds → String
  | .both => "both"
  | .left => "left"
  | .right => "right"
  | .neither => "neither"

/-- The names of the bounds of a range. -/
def Bounds.choices : List (String × Bounds) :=
  [.both, .left, .right, .neither].map fun b => (b.name, b)

/-- The symbols of the operators between scalars. -/
def BinaryOp.choices : List (String × BinaryOp) := BinaryOp.all.map fun op => (op.symbol, op)

/-- The names of the dialects. -/
def Dialect.choices : List (String × Dialect) := Dialect.all.map fun d => (d.name, d)

/-! ## Writing -/

mutual

/-- The structured form of a scalar. -/
def Scalar.toJson {κ : Type} (h : κ → Json) : Scalar κ → Json
  | .column name => .tagged "kind" "column" [("name", .string name)]
  | .literal value => .tagged "kind" "literal" [("value", value.toTaggedJson)]
  | .binary op l r =>
    .tagged "kind" "binary"
      [("op", .string op.symbol), ("left", l.toJson h), ("right", r.toJson h)]
  | .safeDiv n d fill =>
    .tagged "kind" "safe_div"
      [("numerator", n.toJson h), ("denominator", d.toJson h), ("fill", .ofFloat fill)]
  | .coalesce args => .tagged "kind" "coalesce" [("exprs", .array (Scalar.listToJson h args))]
  | .caseWhen branches none =>
    .tagged "kind" "case_when"
      [("whens", .array (Scalar.branchesToJson h branches)), ("otherwise", .null)]
  | .caseWhen branches (some e) =>
    .tagged "kind" "case_when"
      [("whens", .array (Scalar.branchesToJson h branches)), ("otherwise", e.toJson h)]
  | .fragment text => .tagged "kind" "fragment" [("sql", .string text)]
termination_by structural e => e

/-- The structured forms of some scalars. -/
def Scalar.listToJson {κ : Type} (h : κ → Json) : List (Scalar κ) → List Json
  | [] => []
  | e :: rest => e.toJson h :: Scalar.listToJson h rest
termination_by structural es => es

/-- The structured forms of some branches. -/
def Scalar.branchesToJson {κ : Type} (h : κ → Json) : List (Predicate κ × Scalar κ) → List Json
  | [] => []
  | (p, e) :: rest =>
    .object [("when", p.toJson h), ("then", e.toJson h)] :: Scalar.branchesToJson h rest
termination_by structural bs => bs

/-- The structured form of a predicate. -/
def Predicate.toJson {κ : Type} (h : κ → Json) : Predicate κ → Json
  | .compare op l r =>
    .tagged "kind" "cmp" [("op", .string op.symbol), ("left", l.toJson h), ("right", r.toJson h)]
  | .member e values =>
    .tagged "kind" "in"
      [("expr", e.toJson h), ("values", .array (values.map Cell.toTaggedJson))]
  | .range e low high bounds =>
    .tagged "kind" "between"
      [("expr", e.toJson h), ("left", low.toTaggedJson), ("right", high.toTaggedJson),
       ("inclusive", .string bounds.name)]
  | .isNull e => .tagged "kind" "is_null" [("expr", e.toJson h)]
  | .join op l r =>
    .tagged "kind" "bool" [("op", .string op.name), ("left", l.toJson h), ("right", r.toJson h)]
  | .not p => .tagged "kind" "not" [("expr", p.toJson h)]
  | .like e pattern ignoreCase negated =>
    .tagged "kind" "like"
      [("expr", e.toJson h), ("pattern", pattern.toJson h), ("ci", .bool ignoreCase),
       ("neg", .bool negated)]
  | .regex e pattern flags negated =>
    .tagged "kind" "regex"
      [("expr", e.toJson h), ("pattern", pattern.toJson h), ("flags", .string flags),
       ("neg", .bool negated)]
  | .clause c => h c
termination_by structural p => p

end

/-- The structured form of a clause. -/
def Clause.toJson (c : Clause) : Json :=
  .tagged "kind" "sql" [("sql", .string c.text), ("dialect", .string c.dialect.name)]

/-- The structured form of an expression. -/
def Expr.structured (e : Expr) : Json := e.toJson Clause.toJson

/-- The structured form of a condition. -/
def Condition.structured (p : Condition) : Json := p.toJson Clause.toJson

/-- The structured form of a plain condition. -/
def PlainCondition.structured (p : PlainCondition) : Json := p.toJson noClauses

/-! ## Reading -/

/-- The tags of scalars, in order. -/
def Scalar.kinds : List String :=
  ["column", "literal", "binary", "safe_div", "coalesce", "case_when", "fragment"]

/-- The tags of predicates, in order. -/
def Predicate.kinds : List String :=
  ["cmp", "in", "between", "is_null", "bool", "not", "like", "regex", "sql"]

/-- Reads the fields of a clause. -/
def Clause.ofFields? (body : Json) : Option Clause := do
  let r ← Json.Record.open? ["sql", "dialect"] body
  return ⟨← r.required "sql" Json.string?,
    ← r.withDefault "dialect" .ansi (Json.choice? true Dialect.choices)⟩

mutual

/-- Reads a scalar that nests at most as deep as the first number; `inside` tells whether it stands
within another tagged record. -/
def Scalar.read? : Nat → Bool → Json → Option Expr
  | 0, _, _ => none
  | fuel + 1, inside, value => do
    let (kind, body) ← Json.untag? "kind" inside Scalar.kinds value
    match kind with
    | "column" =>
      let r ← Json.Record.open? ["name"] body
      return .column (← r.required "name" Json.string?)
    | "literal" =>
      let r ← Json.Record.open? ["value"] body
      return .literal (← r.required "value" Cell.ofJson?)
    | "binary" =>
      let r ← Json.Record.open? ["op", "left", "right"] body
      return .binary (← r.required "op" (Json.choice? true BinaryOp.choices))
        (← r.required "left" (Scalar.read? fuel true))
        (← r.required "right" (Scalar.read? fuel true))
    | "safe_div" =>
      let r ← Json.Record.open? ["numerator", "denominator", "fill"] body
      return .safeDiv (← r.required "numerator" (Scalar.read? fuel true))
        (← r.required "denominator" (Scalar.read? fuel true))
        (← r.withDefault "fill" Binary64.zero Json.float?)
    | "coalesce" =>
      let r ← Json.Record.open? ["exprs"] body
      return .coalesce (← r.required "exprs" (Json.list? (Scalar.read? fuel true)))
    | "case_when" =>
      let r ← Json.Record.open? ["whens", "otherwise"] body
      return .caseWhen (← r.required "whens" (Json.list? (Scalar.readBranch? fuel)))
        (← r.optional "otherwise" (Scalar.read? fuel true))
    | "fragment" =>
      let r ← Json.Record.open? ["sql"] body
      return .fragment (← r.required "sql" Json.string?)
    | _ => none

/-- Reads a branch of a case distinction. -/
def Scalar.readBranch? : Nat → Json → Option (Condition × Expr)
  | 0, _ => none
  | fuel + 1, value => do
    let r ← Json.Record.open? ["when", "then"] value
    return (← r.required "when" (Predicate.read? fuel true),
      ← r.required "then" (Scalar.read? fuel true))

/-- Reads a predicate that nests at most as deep as the first number. -/
def Predicate.read? : Nat → Bool → Json → Option Condition
  | 0, _, _ => none
  | fuel + 1, inside, value => do
    let (kind, body) ← Json.untag? "kind" inside Predicate.kinds value
    match kind with
    | "cmp" =>
      let r ← Json.Record.open? ["op", "left", "right"] body
      return .compare (← r.required "op" (Json.choice? true Comparison.spellings))
        (← r.required "left" (Scalar.read? fuel true))
        (← r.required "right" (Scalar.read? fuel true))
    | "in" =>
      let r ← Json.Record.open? ["expr", "values"] body
      return .member (← r.required "expr" (Scalar.read? fuel true))
        (← r.required "values" Cell.listOfJson?)
    | "between" =>
      let r ← Json.Record.open? ["expr", "left", "right", "inclusive"] body
      return .range (← r.required "expr" (Scalar.read? fuel true))
        (← r.required "left" Cell.ofJson?) (← r.required "right" Cell.ofJson?)
        (← r.withDefault "inclusive" .both (Json.choice? true Bounds.choices))
    | "is_null" =>
      let r ← Json.Record.open? ["expr"] body
      return .isNull (← r.required "expr" (Scalar.read? fuel true))
    | "bool" =>
      let r ← Json.Record.open? ["op", "left", "right"] body
      return .join (← r.required "op" (Json.choice? true Connective.choices))
        (← r.required "left" (Predicate.read? fuel true))
        (← r.required "right" (Predicate.read? fuel true))
    | "not" =>
      let r ← Json.Record.open? ["expr"] body
      return .not (← r.required "expr" (Predicate.read? fuel true))
    | "like" =>
      let r ← Json.Record.open? ["expr", "pattern", "ci", "neg"] body
      return .like (← r.required "expr" (Scalar.read? fuel true))
        (← r.required "pattern" (Scalar.read? fuel true))
        (← r.withDefault "ci" false Json.bool?) (← r.withDefault "neg" false Json.bool?)
    | "regex" =>
      let r ← Json.Record.open? ["expr", "pattern", "flags", "neg"] body
      return .regex (← r.required "expr" (Scalar.read? fuel true))
        (← r.required "pattern" (Scalar.read? fuel true))
        (← r.withDefault "flags" "" Json.string?) (← r.withDefault "neg" false Json.bool?)
    | "sql" => return .clause (← Clause.ofFields? body)
    | _ => none

end

/-- The expression with a structured form. -/
def Expr.ofJson? (inside : Bool) (value : Json) : Option Expr :=
  Scalar.read? (value.depth + 1) inside value

/-- The condition with a structured form. -/
def Condition.ofJson? (inside : Bool) (value : Json) : Option Condition :=
  Predicate.read? (value.depth + 1) inside value

/-! ## Aggregates -/

namespace Aggregate

/-- The tag of the aggregate that a reduction makes. -/
def kindOf : Reduction → String
  | .mean => "avg"
  | r => r.name

/-- The structured form of an aggregate. -/
def toJson : Aggregate → Json
  | reduce r e => .tagged "kind" (kindOf r) [("expr", e.structured)]
  | countRows => .tagged "kind" "count" [("expr", .null)]
  | ratio n d fill =>
    .tagged "kind" "ratio_of_sums"
      [("numerator", n.structured), ("denominator", d.structured), ("fill", .ofFloat fill)]

/-- The tags of aggregates, in order. -/
def kinds : List String := ["sum", "avg", "min", "max", "count", "nunique", "ratio_of_sums"]

/-- The aggregate with a structured form. -/
def ofJson? (inside : Bool) (value : Json) : Option Aggregate := do
  let (kind, body) ← Json.untag? "kind" inside kinds value
  match kind with
  | "count" =>
    let r ← Json.Record.open? ["expr"] body
    match ← r.optional "expr" (Expr.ofJson? true) with
    | some e => return reduce .count e
    | none => return countRows
  | "ratio_of_sums" =>
    let r ← Json.Record.open? ["numerator", "denominator", "fill"] body
    return ratio (← r.required "numerator" (Expr.ofJson? true))
      (← r.required "denominator" (Expr.ofJson? true))
      (← r.withDefault "fill" Binary64.zero Json.float?)
  | _ =>
    let reduction ← Reduction.all.find? fun r => kindOf r == kind
    let r ← Json.Record.open? ["expr"] body
    return reduce reduction (← r.required "expr" (Expr.ofJson? true))

end Aggregate

end Crosstab
