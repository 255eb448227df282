import Crosstab.Fault
import Crosstab.Regex.Reader

/-!
# Patterns

Text is matched with two kinds of patterns.  A regular expression is searched in the text, under
flags that may be `i`, `m` and `s`.  A `LIKE` pattern must fit the whole text: `%` stands for any
characters, `_` for one, and everything else for itself.
-/

namespace Crosstab.Pattern

/-! ## Flags -/

/-- Adds a flag after those that are there. -/
def addFlag (flags : List Char) (flag : Char) : List Char :=
  if flags.contains flag then flags else flags ++ [flag]

/-- The flags of a regular expression in small letters, each once, in the order in which they first
appear. -/
def normalFlags (flags : String) : Outcome String := do
  let letters ← flags.toList.mapM fun c =>
    let flag := c.toLower
    if flag = 'i' || flag = 'm' || flag = 's' then .ok flag else reject (.unsupportedFlag flag)
  return String.ofList (letters.foldl addFlag [])

/-! ## Regular expressions -/

/-- The regular expression of a pattern under flags that are normal. -/
def compile (pattern flags : String) : Outcome Regex :=
  let source := if flags.isEmpty then pattern else "(?" ++ flags ++ ")" ++ pattern
  match Regex.ofPattern? source with
  | some r => .ok r
  | none => reject (.invalidRegex pattern)

/-! ## LIKE patterns -/

/-- A character of a `LIKE` pattern as part of a regular expression. -/
def likeChar (c : Char) : List Char :=
  if c = '%' then ['.', '*']
  else if c = '_' then ['.']
  else if Regex.metaChars.contains c then ['\\', c]
  else [c]

/-- A `LIKE` pattern as a regular expression. -/
def likeSource (pattern : String) (ignoreCase : Bool) : String :=
  let head := if ignoreCase then "(?is)^" else "(?s)^"
  String.ofList (head.toList ++ pattern.toList.flatMap likeChar ++ ['$'])

/-- The regular expression of a `LIKE` pattern. -/
def compileLike (pattern : String) (ignoreCase : Bool) : Outcome Regex :=
  compile (likeSource pattern ignoreCase) ""

end Crosstab.Pattern
