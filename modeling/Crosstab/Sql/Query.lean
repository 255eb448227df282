import Crosstab.Sql.Form

/-!
# Aggregate statements

A `Query` is a statement of one shape: keys and aggregates are selected from a table under their
aliases, rows are filtered, grouped by the places of the keys, and the groups are filtered.
-/

namespace Crosstab.Sql

/-- A form that is selected under a name. -/
structure Item where
  /-- The form. -/
  form : List Token
  /-- The name. -/
  name : String
  deriving DecidableEq, Repr

/-- An aggregate statement. -/
structure Query where
  /-- The table; its name is quoted as one. -/
  table : String
  /-- What is grouped by. -/
  keys : List Item := []
  /-- What is computed for each group. -/
  aggregates : List Item := []
  /-- The filter of rows. -/
  filter : Option (List Token) := none
  /-- The filter of groups. -/
  having : Option (List Token) := none
  deriving DecidableEq, Repr

namespace Query

/-- An item as it stands in the list of what is selected. -/
def itemForm (i : Item) : List Token :=
  [.newline, .indent 1] ++ i.form ++ [.space, .word .as, .space, .name i.name]

/-- The items that are selected, with commas between them. -/
def itemForms : List Item → List Token
  | [] => []
  | [i] => itemForm i
  | i :: rest => itemForm i ++ .mark .comma :: itemForms rest

/-- A line that starts with a keyword, if there is something to follow it. -/
def line (w : Word) : Option (List Token) → List Token
  | none => []
  | some form => .newline :: .word w :: .space :: form

/-- The places of the first items. -/
def places (count : Nat) : List (List Token) :=
  (List.range count).map fun i => [.int (Int64.ofNat (i + 1))]

/-- The statement as tokens. -/
def tokens (q : Query) : List Token :=
  .word .select :: itemForms (q.keys ++ q.aggregates)
    ++ [.newline, .word .from, .space, .name q.table]
    ++ line .where q.filter
    ++ line .groupBy (if q.keys.isEmpty then none else some (commaList (places q.keys.length)))
    ++ line .having q.having

/-- The statement as text. -/
def sql (q : Query) (d : Dialect) : String := render d q.tokens

end Query

end Crosstab.Sql
