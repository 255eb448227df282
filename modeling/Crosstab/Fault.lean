import Crosstab.Cell.Written
import Crosstab.Json.Written
import Crosstab.Clause.Fault
import Crosstab.Expr.Operator

/-!
# Errors of reports

A report fails because the text of a clause does not read, because the report is not valid for the
data, because no backend is there to run it, or because the backend failed.  `ReportError.message`
is what a person reads.
-/

namespace Crosstab

/-- Why a report is not valid. -/
inductive Invalid where
  | unknownTimeGrain (name : String)
  | duplicateName (name : String)
  | unknownAggregation (name : String)
  | unsupportedFlag (flag : Char)
  /-- A regular expression that does not compile. -/
  | invalidRegex (pattern : String)
  | nonFiniteLiteral (x : Binary64)
  /-- An expression that only a backend can evaluate. -/
  | notEvaluable (text : String)
  /-- A cell that no sum or mean can take. -/
  | notAggregable (c : Cell)
  /-- A cell that an operator cannot take. -/
  | notOperand (op : BinaryOp) (c : Cell)
  | missingColumn (name : String)
  | lengthMismatch (name : String) (expected actual : Nat)
  /-- Data that is not an array of records. -/
  | notRecords
  /-- A record that is not an object. -/
  | notRecord (value : Json)
  /-- A structured form of a specification or of a cell that does not read. -/
  | unreadable
  /-- A result that has not exactly one slice. -/
  | notSingle (slices : Nat)
  deriving Repr

/-- Why a report fails. -/
inductive ReportError where
  /-- The text of a clause does not read. -/
  | clause (e : ClauseError)
  /-- The report is not valid. -/
  | invalid (why : Invalid)
  /-- The engine has no backend, or its backend is not set up. -/
  | unavailable (engine reason : String)
  /-- The backend failed. -/
  | backend (name text : String)
  deriving Repr

/-- A count in decimal digits. -/
def countText (n : Nat) : String := String.ofList (Binary64.digitChars n)

/-- A kind of a cell and the cell itself, for messages. -/
def Cell.described (c : Cell) : String := c.kindName ++ " value " ++ c.display

/-- What is wrong with a report, in words. -/
def Invalid.text : Invalid → String
  | .unknownTimeGrain name => "unsupported time_grain: " ++ name
  | .duplicateName name => "duplicate dimension or measure name: " ++ name
  | .unknownAggregation name => "unsupported aggregation: " ++ name
  | .unsupportedFlag flag =>
    "unsupported regex flag '" ++ String.singleton flag ++ "' (allowed: i, m, s)"
  | .invalidRegex pattern => "invalid regex pattern: " ++ pattern
  | .nonFiniteLiteral x => "cannot render non-finite number " ++ x.text ++ " as SQL"
  | .notEvaluable text => "expression cannot be evaluated in-process: " ++ text
  | .notAggregable c => "type mismatch: cannot aggregate " ++ c.described
  | .notOperand op c =>
    "type mismatch: operator " ++ op.symbol ++ " is not defined for " ++ c.described
  | .missingColumn name => "column not found: " ++ name
  | .lengthMismatch name expected actual =>
    "column " ++ name ++ " has " ++ countText actual ++ " values, expected " ++ countText expected
  | .notRecords => "invalid report spec: dataset must be a JSON array of objects"
  | .notRecord value =>
    "invalid report spec: dataset record is not an object: " ++ value.canonical.compact
  | .unreadable => "invalid report spec"
  | .notSingle slices =>
    "result has " ++ countText slices ++ " slices; select one by key"

/-- The error in words. -/
def ReportError.message : ReportError → String
  | .clause e => "syntax error: " ++ e.message ++ " at " ++ countText e.offset
  | .invalid why => "validation error: " ++ why.text
  | .unavailable engine reason => engine ++ " backend unavailable: " ++ reason
  | .backend name text => name ++ " backend error: " ++ text

/-- Results of operations that a report may fail in. -/
abbrev Outcome (α : Type) := Except ReportError α

/-- Fails because the report is not valid. -/
def reject {α : Type} (why : Invalid) : Outcome α := .error (.invalid why)

end Crosstab
