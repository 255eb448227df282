import Crosstab.Text.Case

/-!
# Dialects of SQL
-/

namespace Crosstab

/-- A dialect of SQL in which statements are written. -/
inductive Dialect where
  | ansi
  | duckdb
  | bigquery
  deriving DecidableEq, Repr

namespace Dialect

/-- All dialects. -/
def all : List Dialect := [.ansi, .duckdb, .bigquery]

/-- Every dialect is listed. -/
theorem mem_all (d : Dialect) : d ∈ all := by cases d <;> decide

/-- The name of a dialect. -/
def name : Dialect → String
  | .ansi => "ansi"
  | .duckdb => "duckdb"
  | .bigquery => "bigquery"

/-- The dialect of a name; upper and lower case of ASCII letters are not told apart.  The error is
the wording for a name that is none. -/
def ofName (s : String) : Except String Dialect :=
  let name := Text.lowerAscii s
  match all.find? (·.name == name) with
  | some d => .ok d
  | none => .error ("unknown dialect '" ++ name ++ "' (expected ansi, duckdb or bigquery)")

end Dialect

end Crosstab
