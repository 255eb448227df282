import Crosstab.Json.Basic
import Crosstab.Binary64.Shortest

/-!
# Structured values as text

`compact` writes a value without white space.  `pretty` starts a line for every item and field and
indents by two spaces for every level; empty arrays and objects stay on one line.

In a string a quote, a backslash and the control characters are escaped; all other characters are
written as they are.
-/

namespace Crosstab.Json

/-! ## Strings and numbers -/

/-- A digit of a hexadecimal number. -/
def hexDigit (n : Nat) : Char := (Nat.toDigits 16 n).headD '0'

/-- One character of a string. -/
def escapeChar (c : Char) : List Char :=
  if c = '"' then ['\\', '"']
  else if c = '\\' then ['\\', '\\']
  else if c = '\n' then ['\\', 'n']
  else if c = '\r' then ['\\', 'r']
  else if c = '\t' then ['\\', 't']
  else if c.toNat = 8 then ['\\', 'b']
  else if c.toNat = 12 then ['\\', 'f']
  else if c.toNat < 32 then ['\\', 'u', '0', '0', hexDigit (c.toNat / 16), hexDigit (c.toNat % 16)]
  else [c]

/-- A string between quotes. -/
def stringChars (s : String) : List Char :=
  '"' :: s.toList.flatMap escapeChar ++ ['"']

/-- A number. -/
def Number.chars : Number → List Char
  | .whole n => Binary64.intChars n
  | .float x => x.chars

/-! ## Compact text -/

mutual

/-- The characters of a value without white space. -/
def compactChars : Json → List Char
  | .null => "null".toList
  | .bool true => "true".toList
  | .bool false => "false".toList
  | .number n => n.chars
  | .string s => stringChars s
  | .array items => '[' :: compactItems items ++ [']']
  | .object fields => '{' :: compactFields fields ++ ['}']

/-- Items separated by commas. -/
def compactItems : List Json → List Char
  | [] => []
  | [item] => item.compactChars
  | item :: rest => item.compactChars ++ ',' :: compactItems rest

/-- Fields separated by commas. -/
def compactFields : List (String × Json) → List Char
  | [] => []
  | [(name, value)] => stringChars name ++ ':' :: value.compactChars
  | (name, value) :: rest =>
    stringChars name ++ ':' :: value.compactChars ++ ',' :: compactFields rest

end

/-- The text of a value without white space. -/
def compact (value : Json) : String := String.ofList value.compactChars

/-! ## Indented text -/

/-- The start of a line at a level. -/
def lineStart (level : Nat) : List Char := '\n' :: List.replicate (2 * level) ' '

mutual

/-- The characters of a value whose first line stands at a level. -/
def prettyChars (level : Nat) : Json → List Char
  | .array (item :: rest) =>
    '[' :: lineStart (level + 1) ++ prettyItems (level + 1) (item :: rest)
      ++ lineStart level ++ [']']
  | .object (field :: rest) =>
    '{' :: lineStart (level + 1) ++ prettyFields (level + 1) (field :: rest)
      ++ lineStart level ++ ['}']
  | value => value.compactChars

/-- Items, each on lines of its own. -/
def prettyItems (level : Nat) : List Json → List Char
  | [] => []
  | [item] => item.prettyChars level
  | item :: rest => item.prettyChars level ++ ',' :: lineStart level ++ prettyItems level rest

/-- Fields, each on lines of its own. -/
def prettyFields (level : Nat) : List (String × Json) → List Char
  | [] => []
  | [(name, value)] => stringChars name ++ ':' :: ' ' :: value.prettyChars level
  | (name, value) :: rest =>
    stringChars name ++ ':' :: ' ' :: value.prettyChars level
      ++ ',' :: lineStart level ++ prettyFields level rest

end

/-- The text of a value with a line for every item and field. -/
def pretty (value : Json) : String := String.ofList (value.prettyChars 0)

end Crosstab.Json
