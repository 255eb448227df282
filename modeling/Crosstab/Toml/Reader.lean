import Crosstab.Toml.Quoted
import Crosstab.Toml.Scalar
import Crosstab.Toml.Table

/-!
# Reading settings files

`Toml.read?` reads a whole file in the format TOML 1.1: lines that are blank or comments, headers of
tables and of arrays of tables, and keys with values.  A file that breaks a rule of the format has
no value at all.
-/

namespace Crosstab.Toml

/-- How deep arrays and tables that are values may nest. -/
def depthLimit : Nat := 80

/-- How many parts a key may have. -/
def partLimit : Nat := 80

/-! ## Lines -/

/-- The text at the end of the line, after a comment. -/
def afterComment : List Char → Option (List Char)
  | [] => some []
  | c :: rest =>
    if (afterBreak (c :: rest)).isSome then some (c :: rest)
    else if isPlain c then afterComment rest
    else none

/-- The text after the end of the line, where only white space and a comment may be left. -/
def endLine (cs : List Char) : Option (List Char) :=
  let stop := match skipSpace cs with
    | '#' :: rest => afterComment rest
    | rest => some rest
  stop.bind fun
    | [] => some []
    | rest => afterBreak rest

/-- The text after white space, line breaks and comments. -/
def skipLines : Nat → List Char → Option (List Char)
  | 0, _ => none
  | fuel + 1, cs => match skipSpace cs with
    | '#' :: rest => (afterComment rest).bind (skipLines fuel)
    | rest => match afterBreak rest with
      | some rest => skipLines fuel rest
      | none => some rest

/-- The text after white space, line breaks and comments, however many they are. -/
def skipAll (cs : List Char) : Option (List Char) := skipLines (cs.length + 1) cs

/-! ## Keys -/

/-- Whether a character may be part of a bare key. -/
def isKeyChar (c : Char) : Bool := c.isAlphanum || c = '_' || c = '-'

/-- Reads a part of a key. -/
def readPart : List Char → Option (String × List Char)
  | '"' :: rest => lineString '"' rest
  | '\'' :: rest => lineString '\'' rest
  | cs => match cs.takeWhile isKeyChar with
    | [] => none
    | part => some (String.ofList part, cs.dropWhile isKeyChar)

/-- Reads a key of at most so many parts: those before the last one, and the last one. -/
def readParts : Nat → List Char → Option (List String × String × List Char)
  | 0, _ => none
  | limit + 1, cs => do
    let (part, rest) ← readPart (skipSpace cs)
    match skipSpace rest with
    | '.' :: rest =>
      let (path, key, rest) ← readParts limit rest
      return (part :: path, key, rest)
    | rest => return ([], part, rest)

/-- Reads a key. -/
def readKey (cs : List Char) : Option (List String × String × List Char) := readParts partLimit cs

/-! ## Values -/

mutual

/-- Reads a value; `levels` is how deep it may still nest. -/
def readValue : Nat → Nat → List Char → Option (Node × List Char)
  | 0, _, _ => none
  | fuel + 1, levels, cs => match cs with
    | '"' :: rest => (anyString '"' rest).map fun (s, rest) => (.scalar (.string s), rest)
    | '\'' :: rest => (anyString '\'' rest).map fun (s, rest) => (.scalar (.string s), rest)
    | '[' :: rest => match levels with
      | 0 => none
      | levels + 1 => (readItems fuel levels rest).map fun (items, rest) => (.array items, rest)
    | '\x7b' :: rest => match levels with
      | 0 => none
      | levels + 1 => (readFields fuel levels [] rest).map
        fun (entries, rest) => (.table .inline entries, rest)
    | cs => (readBare cs).map fun (value, rest) => (.scalar value, rest)

/-- Reads the items of an array up to its closing bracket; a comma may follow the last one. -/
def readItems : Nat → Nat → List Char → Option (List Node × List Char)
  | 0, _, _ => none
  | fuel + 1, levels, cs => do
    match ← skipAll cs with
    | ']' :: rest => return ([], rest)
    | cs =>
      let (item, rest) ← readValue fuel levels cs
      match ← skipAll rest with
      | ',' :: rest =>
        let (items, rest) ← readItems fuel levels rest
        return (item :: items, rest)
      | ']' :: rest => return ([item], rest)
      | _ => none

/-- Reads the entries of a table that is a value, up to its closing brace; a comma may follow the
last one. -/
def readFields : Nat → Nat → Entries → List Char → Option (Entries × List Char)
  | 0, _, _, _ => none
  | fuel + 1, levels, entries, cs => do
    match ← skipAll cs with
    | '\x7d' :: rest => return (entries, rest)
    | cs =>
      let (path, key, rest) ← readKey cs
      let (value, rest) ← readValue fuel levels (← skipAll (← afterMark '=' (← skipAll rest)))
      let entries ← entries.addKey path key value
      match ← skipAll rest with
      | ',' :: rest => readFields fuel levels entries rest
      | '\x7d' :: rest => return (entries, rest)
      | _ => none

end

/-! ## Files -/

/-- The tables read so far, and the header of the table that is being filled. -/
structure Progress where
  /-- The entries of the file. -/
  entries : Entries := []
  /-- The parts of the last header. -/
  header : List String := []

/-- Reads a line after its leading white space. -/
def readLine (p : Progress) : List Char → Option (Progress × List Char)
  | '[' :: '[' :: rest => do
    let (path, key, rest) ← readKey rest
    let rest ← endLine (← afterMark ']' (← afterMark ']' rest))
    return (⟨← p.entries.addElement path key, path ++ [key]⟩, rest)
  | '[' :: rest => do
    let (path, key, rest) ← readKey rest
    let rest ← endLine (← afterMark ']' rest)
    return (⟨← p.entries.addHeader path key, path ++ [key]⟩, rest)
  | cs => do
    let (path, key, rest) ← readKey cs
    let rest := skipSpace (← afterMark '=' rest)
    let (value, rest) ← readValue (2 * rest.length + 2) depthLimit rest
    return (⟨← p.entries.addBelow p.header path key value, p.header⟩, ← endLine rest)

/-- Reads the lines of a file. -/
def readFile : Nat → Progress → List Char → Option Entries
  | 0, _, _ => none
  | fuel + 1, p, cs => do
    match ← skipAll cs with
    | [] => return p.entries
    | cs =>
      let (p, rest) ← readLine p cs
      readFile fuel p rest

/-- The structured value of a settings file. -/
def read? (s : String) : Option Json :=
  let cs := match s.toList with
    | '\uFEFF' :: rest => rest
    | cs => cs
  (readFile (cs.length + 1) {} cs).map fun entries => .object (entriesToJson entries)

end Crosstab.Toml
