import Crosstab.Binary64.Decimal
import Crosstab.Clause.Lexer
import Crosstab.Expr.Basic

/-!
# Clause text as predicates

The grammar, from the loosest to the tightest operator:

* `or` joins with `OR`, `and` joins with `AND`, `not` negates with `NOT`;
* a comparison stands between two sums, or is one of `IS NULL`, `BETWEEN`, `IN`, `LIKE`, `ILIKE`;
* sums, products, a minus sign in front, and at last names, literals and sums in parentheses.

A parenthesis may open a predicate or a sum.  It is read as a predicate first; when that fails it
is read as a sum, and of the two errors the one further on in the text is reported.

`NOT` directly in front of `IN`, `BETWEEN`, `LIKE` or `ILIKE` belongs to these.
-/

namespace Crosstab.Clause

/-- A reader takes lexemes from the head of a list. -/
abbrev Reader (α : Type) := List Lexeme → Except ClauseError (α × List Lexeme)

/-! ## Errors -/

/-- A fault at a lexeme. -/
def faultAt (lexeme : Lexeme) (fault : ClauseFault) : ClauseError :=
  ⟨fault, lexeme.start, some lexeme.source⟩

/-- A fault at the head of the lexemes; `stop` is the length of the whole text. -/
def faultHere (stop : Nat) (fault : ClauseFault) : List Lexeme → ClauseError
  | lexeme :: _ => faultAt lexeme fault
  | [] => ⟨fault, stop, none⟩

/-! ## Looking at the head -/

/-- The rest of the lexemes after one that is given, or a fault. -/
def expect (stop : Nat) (kind : LexemeKind) (fault : ClauseFault) (ls : List Lexeme) :
    Except ClauseError (List Lexeme) :=
  match ls with
  | l :: rest => if l.kind = kind then .ok rest else .error (faultAt l fault)
  | [] => .error (faultHere stop fault [])

/-- The rest of the lexemes after one that may be there. -/
def skip? (kind : LexemeKind) (ls : List Lexeme) : Option (List Lexeme) :=
  match ls with
  | l :: rest => if l.kind = kind then some rest else none
  | [] => none

/-- The comparison that an operator stands for. -/
def Sign.comparison? : Sign → Option Comparison
  | .equal => some .eq
  | .doubleEqual => some .eq
  | .lessGreater => some .ne
  | .bangEqual => some .ne
  | .greater => some .gt
  | .greaterEqual => some .ge
  | .less => some .lt
  | .lessEqual => some .le
  | _ => none

/-! ## Literals -/

/-- The cell of a number: a whole number if it is nothing but digits and fits 64 bits with its sign,
otherwise a float, which takes on the sign after it is read.  What is no numeral is read as a NaN. -/
def numberCell (numeral : String) (negative : Bool) : Cell :=
  let cs := numeral.toList
  let x := (Binary64.ofNumeral? cs).getD .notANumber
  let float : Cell := .float (if negative then -x else x)
  if Binary64.isDigits cs then
    let n : Int := Binary64.digitsValue cs
    match int64? (if negative then -n else n) with
    | some m => .int m
    | none => float
  else float

/-- The cell of a lexeme that is a literal. -/
def literal? : LexemeKind → Option Cell
  | .number numeral => some (numberCell numeral false)
  | .string s => some (.text s)
  | .keyword .null => some .null
  | .keyword .true => some (.bool true)
  | .keyword .false => some (.bool false)
  | _ => none

/-! ## Scalars -/

mutual

/-- Reads a sum. -/
def sum (stop : Nat) : Nat → Reader (Scalar Empty)
  | 0, ls => .error (faultHere stop .nestedTooDeep ls)
  | fuel + 1, ls => do
    let (left, ls) ← product stop fuel ls
    sumRest stop fuel left ls

/-- Reads the further terms of a sum. -/
def sumRest (stop : Nat) : Nat → Scalar Empty → Reader (Scalar Empty)
  | 0, _, ls => .error (faultHere stop .nestedTooDeep ls)
  | fuel + 1, left, ls => match ls with
    | ⟨.sign .plus, _, _, _⟩ :: rest => do
      let (right, rest) ← product stop fuel rest
      sumRest stop fuel (.binary .add left right) rest
    | ⟨.sign .minus, _, _, _⟩ :: rest => do
      let (right, rest) ← product stop fuel rest
      sumRest stop fuel (.binary .sub left right) rest
    | _ => .ok (left, ls)

/-- Reads a product. -/
def product (stop : Nat) : Nat → Reader (Scalar Empty)
  | 0, ls => .error (faultHere stop .nestedTooDeep ls)
  | fuel + 1, ls => do
    let (left, ls) ← signed stop fuel ls
    productRest stop fuel left ls

/-- Reads the further factors of a product. -/
def productRest (stop : Nat) : Nat → Scalar Empty → Reader (Scalar Empty)
  | 0, _, ls => .error (faultHere stop .nestedTooDeep ls)
  | fuel + 1, left, ls => match ls with
    | ⟨.sign .star, _, _, _⟩ :: rest => do
      let (right, rest) ← signed stop fuel rest
      productRest stop fuel (.binary .mul left right) rest
    | ⟨.sign .slash, _, _, _⟩ :: rest => do
      let (right, rest) ← signed stop fuel rest
      productRest stop fuel (.binary .div left right) rest
    | _ => .ok (left, ls)

/-- Reads a factor with its minus signs; one in front of a number belongs to the number, any other
subtracts from zero. -/
def signed (stop : Nat) : Nat → Reader (Scalar Empty)
  | 0, ls => .error (faultHere stop .nestedTooDeep ls)
  | fuel + 1, ls => match ls with
    | ⟨.sign .minus, _, _, _⟩ :: ⟨.number numeral, _, _, _⟩ :: rest =>
      .ok (.literal (numberCell numeral true), rest)
    | ⟨.sign .minus, _, _, _⟩ :: rest => do
      let (operand, rest) ← signed stop fuel rest
      return (.binary .sub (.literal (.int 0)) operand, rest)
    | _ => atom stop fuel ls

/-- Reads a name, a literal or a sum in parentheses. -/
def atom (stop : Nat) : Nat → Reader (Scalar Empty)
  | 0, ls => .error (faultHere stop .nestedTooDeep ls)
  | fuel + 1, ls => match ls with
    | [] => .error (faultHere stop .expressionExpected [])
    | l :: rest => match l.kind with
      | .name name => .ok (.column name, rest)
      | .leftParen => do
        let (inner, rest) ← sum stop fuel rest
        let rest ← expect stop .rightParen .closingParenExpected rest
        return (inner, rest)
      | kind => match literal? kind, kind with
        | some value, _ => .ok (.literal value, rest)
        | none, .keyword k => .error (faultAt l (.strayKeyword k))
        | none, _ => .error (faultAt l .expressionExpected)

end

/-! ## Ranges and lists -/

/-- Reads a bound of a range, a sum that is a literal. -/
def bound (stop fuel : Nat) : Reader Cell := fun ls => do
  let (e, rest) ← sum stop fuel ls
  match e.literal? with
  | some value => return (value, rest)
  | none => .error (faultHere stop .boundNotLiteral ls)

/-- Reads a range after `BETWEEN`. -/
def range (stop fuel : Nat) (e : Scalar Empty) : Reader (Predicate Empty) := fun ls => do
  let (low, ls) ← bound stop fuel ls
  let ls ← expect stop (.keyword .and) .andExpected ls
  let (high, ls) ← bound stop fuel ls
  return (.range e low high .both, ls)

/-- Reads a member of a list. -/
def member (stop : Nat) : Reader Cell
  | ⟨.sign .minus, _, _, _⟩ :: ⟨.number numeral, _, _, _⟩ :: rest =>
    .ok (numberCell numeral true, rest)
  | l :: rest => match literal? l.kind with
    | some value => .ok (value, rest)
    | none => .error (faultAt l .memberNotLiteral)
  | [] => .error (faultHere stop .literalExpected [])

/-- Reads the members of a list that is not empty, up to its closing parenthesis. -/
def members (stop : Nat) : Nat → Reader (List Cell)
  | 0, ls => .error (faultHere stop .nestedTooDeep ls)
  | fuel + 1, ls => do
    let (value, ls) ← member stop ls
    match skip? .comma ls with
    | some rest =>
      let (values, rest) ← members stop fuel rest
      return (value :: values, rest)
    | none =>
      let rest ← expect stop .rightParen .listDelimiterExpected ls
      return ([value], rest)

/-- Reads a list after `IN`. -/
def list (stop fuel : Nat) (e : Scalar Empty) : Reader (Predicate Empty) := fun ls => do
  let ls ← expect stop .leftParen .listExpected ls
  match skip? .rightParen ls with
  | some rest => return (.member e [], rest)
  | none =>
    let (values, rest) ← members stop fuel ls
    return (.member e values, rest)

/-! ## Comparisons -/

/-- Whether a keyword may follow the `NOT` that belongs to it. -/
def takesNot (k : Keyword) : Bool := k = .in || k = .between || k = .like || k = .ilike

/-- Reads what follows `IS`. -/
def nullTest (stop : Nat) (e : Scalar Empty) : Reader (Predicate Empty) := fun ls =>
  match skip? (.keyword .not) ls with
  | some rest => do
    let rest ← expect stop (.keyword .null) .nullExpected rest
    return (e.notNull, rest)
  | none => do
    let rest ← expect stop (.keyword .null) .nullExpected ls
    return (.isNull e, rest)

/-- Reads what follows the left operand of a comparison. -/
def relation (stop fuel : Nat) (left : Scalar Empty) : Reader (Predicate Empty) := fun ls =>
  match ls with
  | ⟨.keyword .between, _, _, _⟩ :: rest => range stop fuel left rest
  | ⟨.keyword .in, _, _, _⟩ :: rest => list stop fuel left rest
  | ⟨.keyword .like, _, _, _⟩ :: rest => do
    let (pattern, rest) ← sum stop fuel rest
    return (.like left pattern false false, rest)
  | ⟨.keyword .ilike, _, _, _⟩ :: rest => do
    let (pattern, rest) ← sum stop fuel rest
    return (.like left pattern true false, rest)
  | ⟨.sign s, _, _, _⟩ :: rest => match s.comparison? with
    | some op => do
      let (right, rest) ← sum stop fuel rest
      return (.compare op left right, rest)
    | none => .error (faultHere stop .predicateExpected ls)
  | _ => .error (faultHere stop .predicateExpected ls)

/-- Reads a comparison. -/
def comparison (stop fuel : Nat) : Reader (Predicate Empty) := fun ls => do
  let (left, ls) ← sum stop fuel ls
  match ls with
  | ⟨.keyword .is, _, _, _⟩ :: rest => nullTest stop left rest
  | ⟨.keyword .not, _, _, _⟩ :: ⟨.keyword k, start, stopAt, source⟩ :: rest =>
    if takesNot k then do
      let (p, rest) ← relation stop fuel left (⟨.keyword k, start, stopAt, source⟩ :: rest)
      return (.not p, rest)
    else relation stop fuel left ls
  | _ => relation stop fuel left ls

/-! ## Predicates -/

mutual

/-- Reads a disjunction. -/
def disjunction (stop : Nat) : Nat → Reader (Predicate Empty)
  | 0, ls => .error (faultHere stop .nestedTooDeep ls)
  | fuel + 1, ls => do
    let (left, ls) ← conjunction stop fuel ls
    disjunctionRest stop fuel left ls

/-- Reads the further parts of a disjunction. -/
def disjunctionRest (stop : Nat) : Nat → Predicate Empty → Reader (Predicate Empty)
  | 0, _, ls => .error (faultHere stop .nestedTooDeep ls)
  | fuel + 1, left, ls => match skip? (.keyword .or) ls with
    | some rest => do
      let (right, rest) ← conjunction stop fuel rest
      disjunctionRest stop fuel (.join .or left right) rest
    | none => .ok (left, ls)

/-- Reads a conjunction. -/
def conjunction (stop : Nat) : Nat → Reader (Predicate Empty)
  | 0, ls => .error (faultHere stop .nestedTooDeep ls)
  | fuel + 1, ls => do
    let (left, ls) ← negation stop fuel ls
    conjunctionRest stop fuel left ls

/-- Reads the further parts of a conjunction. -/
def conjunctionRest (stop : Nat) : Nat → Predicate Empty → Reader (Predicate Empty)
  | 0, _, ls => .error (faultHere stop .nestedTooDeep ls)
  | fuel + 1, left, ls => match skip? (.keyword .and) ls with
    | some rest => do
      let (right, rest) ← negation stop fuel rest
      conjunctionRest stop fuel (.join .and left right) rest
    | none => .ok (left, ls)

/-- Reads a predicate with the `NOT`s in front of it. -/
def negation (stop : Nat) : Nat → Reader (Predicate Empty)
  | 0, ls => .error (faultHere stop .nestedTooDeep ls)
  | fuel + 1, ls => match skip? (.keyword .not) ls with
    | some rest => do
      let (p, rest) ← negation stop fuel rest
      return (.not p, rest)
    | none => group stop fuel ls

/-- Reads a predicate in parentheses, or else a comparison. -/
def group (stop : Nat) : Nat → Reader (Predicate Empty)
  | 0, ls => .error (faultHere stop .nestedTooDeep ls)
  | fuel + 1, ls => match skip? .leftParen ls with
    | none => comparison stop fuel ls
    | some rest =>
      let grouped : Except ClauseError (Predicate Empty × List Lexeme) := do
        let (p, rest) ← disjunction stop fuel rest
        let rest ← expect stop .rightParen .closingParenExpected rest
        return (p, rest)
      match grouped with
      | .ok r => .ok r
      | .error asPredicate => match comparison stop fuel ls with
        | .ok r => .ok r
        | .error asOperand =>
          .error (if asPredicate.offset > asOperand.offset then asPredicate else asOperand)

end

/-- A bound on how deep readers call each other within some lexemes. -/
def enough (ls : List Lexeme) : Nat := 10 * ls.length + 12

/-- The predicate that the text of a clause stands for, without a leading keyword. -/
def predicateOf (s : String) : Except ClauseError PlainCondition := do
  let ls ← lexemes s
  let (p, rest) ← disjunction s.utf8ByteSize (enough ls) ls
  match rest with
  | [] => return p
  | l :: _ => .error (faultAt l .trailingInput)

/-! ## Leading keywords -/

/-- The rest of a text after a word in any mixture of case that white space follows. -/
def afterKeyword (word : String) (cs : List Char) : Option (List Char) :=
  let rest := cs.drop word.length
  if (cs.take word.length).map Char.toUpper == word.toList && rest.head?.any Text.isBlank then
    some rest
  else none

/-- The text of a clause without white space and keyword in front. -/
def body (s : String) : List Char :=
  let cs := Text.dropBlanks s.toList
  ((afterKeyword "WHERE" cs).or (afterKeyword "HAVING" cs)).getD cs

/-- The predicate that a clause stands for; errors count bytes from the start of its text. -/
def predicate (c : Clause) : Except ClauseError PlainCondition :=
  let cs := body c.text
  (predicateOf (String.ofList cs)).mapError (·.shift (c.text.utf8ByteSize - byteLength cs))

end Crosstab.Clause
