import Crosstab.Calendar.Grain
import Crosstab.Sql.Token
import Crosstab.Text.Split

/-!
# Forms of statements

The forms that statements are made of, as lists of tokens.  Those that dialects write differently
take the dialect: concatenation, division, search for a regular expression and time buckets.

Every form that consists of several parts stands in parentheses or is a call, so no form depends on
the precedence of operators.
-/

namespace Crosstab.Sql

/-! ## Parentheses and calls -/

/-- Tokens in parentheses. -/
def parens (ts : List Token) : List Token := .mark .leftParen :: ts ++ [.mark .rightParen]

/-- Some forms, separated by a comma and a space. -/
def commaList : List (List Token) → List Token
  | [] => []
  | [ts] => ts
  | ts :: rest => ts ++ .mark .comma :: .space :: commaList rest

/-- A call of a function. -/
def call (function : String) (args : List (List Token)) : List Token :=
  .function function :: parens (commaList args)

/-- An operator between two forms. -/
def between (left : List Token) (op : Token) (right : List Token) : List Token :=
  parens (left ++ .space :: op :: .space :: right)

/-- A negated form. -/
def negate (ts : List Token) : List Token := parens (.word .not :: .space :: ts)

/-! ## Forms that differ between dialects -/

/-- The type of texts. -/
def textType : Dialect → String
  | .bigquery => "STRING"
  | _ => "VARCHAR"

/-- The type of floats. -/
def floatType : Dialect → String
  | .bigquery => "FLOAT64"
  | _ => "DOUBLE"

/-- A form converted to a type. -/
def cast (ts : List Token) (type : String) : List Token :=
  .raw "CAST(" :: ts ++ [.raw (" AS " ++ type ++ ")")]

/-- Two forms joined as texts. -/
def concat (d : Dialect) (left right : List Token) : List Token :=
  let l := cast left (textType d)
  let r := cast right (textType d)
  match d with
  | .bigquery => call "CONCAT" [l, r]
  | _ => parens (l ++ .raw " || " :: r)

/-- A quotient that is null where the denominator is zero. -/
def divide (d : Dialect) (numerator denominator : List Token) : List Token :=
  let n := cast numerator (floatType d)
  let m := cast denominator (floatType d)
  match d with
  | .bigquery => call "SAFE_DIVIDE" [n, m]
  | _ => parens (n ++ .raw " / " :: call "NULLIF" [m, [.raw "0"]])

/-- A quotient that has a value where it would be null. -/
def divideOr (d : Dialect) (numerator denominator : List Token) (fill : Binary64) : List Token :=
  call "COALESCE" [divide d numerator denominator, [.float fill]]

/-- A call of a function for regular expressions that takes flags as its last argument, if there
are any. -/
def regexCall (function : String) (expr pattern : List Token) (flags : String) : List Token :=
  .raw (function ++ "(") :: commaList
    ([expr, pattern] ++ if flags.isEmpty then [] else [[.string flags]]) ++ [.raw ")"]

/-- A search for a regular expression. -/
def regexSearch (d : Dialect) (expr pattern : List Token) (flags : String) : List Token :=
  match d with
  | .ansi => regexCall "REGEXP_LIKE" expr pattern flags
  | .duckdb => regexCall "REGEXP_MATCHES" expr pattern flags
  | .bigquery =>
    let source := if flags.isEmpty then pattern
      else call "CONCAT" [[.string ("(?" ++ flags ++ ")")], pattern]
    call "REGEXP_CONTAINS" [expr, source]

/-- Whether a dialect has a `LIKE` that ignores case. -/
def hasIlike : Dialect → Bool
  | .duckdb => true
  | _ => false

/-- A match with a `LIKE` pattern. -/
def likeMatch (d : Dialect) (expr pattern : List Token) (ignoreCase : Bool) : List Token :=
  if !ignoreCase then between expr (.word .like) pattern
  else if hasIlike d then between expr (.word .ilike) pattern
  else between (call "LOWER" [expr]) (.word .like) (call "LOWER" [pattern])

/-- The part of a date that a grain keeps, as it is written for truncation. -/
def grainPart (g : TimeGrain) : String :=
  match g with
  | .week => "WEEK(MONDAY)"
  | _ => Text.upperAscii g.name

/-- The first day of the bucket of a form. -/
def truncate (d : Dialect) (expr : List Token) (g : TimeGrain) : List Token :=
  match d with
  | .bigquery => .raw "DATE_TRUNC(DATE(" :: expr ++ [.raw ("), " ++ grainPart g ++ ")")]
  | _ => .raw ("CAST(DATE_TRUNC('" ++ g.name ++ "', ") :: expr ++ [.raw ") AS DATE)"]

/-! ## Columns and literals -/

/-- The parts of a name between its dots. -/
def nameParts (name : String) : List String := (Text.parts '.' name.toList).map String.ofList

/-- A reference to a column. -/
def column (name : String) : List Token := [.path (nameParts name)]

end Crosstab.Sql
