import Crosstab.Clause.Lexeme

/-!
# Faults in clause text

A `ClauseError` says what is wrong with the text of a clause and where.
-/

namespace Crosstab

/-- What can be wrong with the text of a clause. -/
inductive ClauseFault where
  /-- A character that starts no lexeme. -/
  | strayCharacter (c : Char)
  | unterminatedString
  | unterminatedName
  /-- Text after a complete predicate. -/
  | trailingInput
  /-- An expression without a comparison. -/
  | predicateExpected
  | expressionExpected
  | nullExpected
  | andExpected
  | closingParenExpected
  | listExpected
  | literalExpected
  | listDelimiterExpected
  /-- A bound of `BETWEEN` that is not a literal. -/
  | boundNotLiteral
  /-- A member of an `IN` list that is not a literal. -/
  | memberNotLiteral
  | strayKeyword (k : Clause.Keyword)
  /-- The text nests deeper than the reader follows it. -/
  | nestedTooDeep
  deriving DecidableEq, Repr

/-- The wording of a fault. -/
def ClauseFault.text : ClauseFault → String
  | .strayCharacter c => "unexpected character '" ++ String.singleton c ++ "'"
  | .unterminatedString => "unterminated string literal"
  | .unterminatedName => "unterminated quoted identifier"
  | .trailingInput => "unexpected trailing input"
  | .predicateExpected => "expected predicate after expression"
  | .expressionExpected => "expected expression"
  | .nullExpected => "expected NULL after IS"
  | .andExpected => "expected AND in BETWEEN"
  | .closingParenExpected => "expected ')'"
  | .listExpected => "expected '(' after IN"
  | .literalExpected => "expected literal in IN list"
  | .listDelimiterExpected => "expected ',' or ')' in IN list"
  | .boundNotLiteral => "BETWEEN bounds must be literals"
  | .memberNotLiteral => "IN list values must be literals"
  | .strayKeyword k => "unexpected keyword " ++ k.word
  | .nestedTooDeep => "clause nests too deep"

/-- A fault at a place of a clause. -/
structure ClauseError where
  /-- What is wrong. -/
  fault : ClauseFault
  /-- The byte offset of the fault. -/
  offset : Nat
  /-- The character or lexeme at the offset; nothing at the end of the text. -/
  found : Option String
  deriving DecidableEq, Repr

namespace ClauseError

/-- The wording of the error without its place. -/
def message (e : ClauseError) : String :=
  match e.found with
  | some _ => e.fault.text
  | none => e.fault.text ++ " (found end of input)"

/-- The error with its offset counted from some bytes earlier. -/
def shift (e : ClauseError) (bytes : Nat) : ClauseError := { e with offset := e.offset + bytes }

end ClauseError

end Crosstab
