import Crosstab.Text.Hex

/-!
# Strings of settings files

A string stands between quotes of one kind.  Between double quotes a backslash starts an escape,
between single quotes it is a character like any other.  Three quotes start a string of several
lines: a line break right after them is left out, a backslash at the end of a line joins it with
what follows, and one or two quotes may stand in front of the closing ones.

All readers start after the opening quotes and answer with the string and the rest of the text.
-/

namespace Crosstab.Toml

/-- Whether a character may stand in a string or a comment. -/
def isPlain (c : Char) : Bool := c = '\t' || (32 ≤ c.toNat && c.toNat ≠ 127)

/-- Whether a character is white space within a line. -/
def isSpace (c : Char) : Bool := c = ' ' || c = '\t'

/-- A text without leading white space. -/
def skipSpace (cs : List Char) : List Char := cs.dropWhile isSpace

/-- The rest of a text after a line break. -/
def afterBreak : List Char → Option (List Char)
  | '\n' :: rest => some rest
  | '\r' :: '\n' :: rest => some rest
  | _ => none

/-! ## Escapes -/

/-- Reads a code point of some hexadecimal digits. -/
def codePoint (count : Nat) (cs : List Char) : Option (Char × List Char) := do
  let digits := cs.take count
  if digits.length = count then
    return (← Text.charOf? (← Text.hexNumber? digits), cs.drop count)
  else none

/-- Reads an escape after its backslash. -/
def escape : List Char → Option (Char × List Char)
  | 'x' :: rest => codePoint 2 rest
  | 'u' :: rest => codePoint 4 rest
  | 'U' :: rest => codePoint 8 rest
  | c :: rest =>
    ([('b', Char.ofNat 8), ('t', '\t'), ('n', '\n'), ('f', Char.ofNat 12), ('r', '\r'),
      ('e', Char.ofNat 27), ('"', '"'), ('\\', '\\')].lookup c).map fun c => (c, rest)
  | [] => none

/-! ## Strings of one line -/

/-- Reads a string between single quotes. -/
def literalBody : List Char → Option (List Char × List Char)
  | [] => none
  | c :: rest =>
    if c = '\'' then some ([], rest)
    else if isPlain c then (literalBody rest).map fun (body, rest) => (c :: body, rest)
    else none

/-- Reads a string between double quotes. -/
def basicBody : Nat → List Char → Option (List Char × List Char)
  | 0, _ => none
  | fuel + 1, cs => match cs with
    | [] => none
    | '"' :: rest => some ([], rest)
    | '\\' :: rest => do
      let (c, rest) ← escape rest
      let (body, rest) ← basicBody fuel rest
      return (c :: body, rest)
    | c :: rest =>
      if isPlain c then (basicBody fuel rest).map fun (body, rest) => (c :: body, rest) else none

/-! ## Strings of several lines -/

/-- The text at the next character that is not white space, after a backslash; a line break must
come first. -/
def afterJoin (cs : List Char) : Option (List Char) :=
  (afterBreak (skipSpace cs)).map fun rest =>
    rest.dropWhile fun c => isSpace c || c = '\n' || c = '\r'

/-- Reads a string of several lines; `escapes` tells whether a backslash starts an escape. -/
def blockBody (quote : Char) (escapes : Bool) : Nat → List Char → Option (List Char × List Char)
  | 0, _ => none
  | fuel + 1, cs => match cs with
    | [] => none
    | c :: rest =>
      if c = quote then
        let quotes := (c :: rest).takeWhile (· = quote)
        let after := (c :: rest).dropWhile (· = quote)
        if quotes.length < 3 then
          (blockBody quote escapes fuel after).map fun (body, rest) => (quotes ++ body, rest)
        else if quotes.length ≤ 5 then some (quotes.drop 3, after)
        else none
      else if escapes && c = '\\' then
        match afterJoin rest with
        | some rest => blockBody quote escapes fuel rest
        | none => do
          let (c, rest) ← escape rest
          let (body, rest) ← blockBody quote escapes fuel rest
          return (c :: body, rest)
      else match afterBreak (c :: rest) with
        | some rest =>
          (blockBody quote escapes fuel rest).map fun (body, rest) => ('\n' :: body, rest)
        | none =>
          if isPlain c then
            (blockBody quote escapes fuel rest).map fun (body, rest) => (c :: body, rest)
          else none

/-! ## All strings -/

/-- Reads a string of one line after its opening quote. -/
def lineString (quote : Char) (cs : List Char) : Option (String × List Char) :=
  (if quote = '"' then basicBody (cs.length + 1) cs else literalBody cs).map
    fun (body, rest) => (String.ofList body, rest)

/-- Reads a string of one or several lines after its first quote. -/
def anyString (quote : Char) (cs : List Char) : Option (String × List Char) :=
  match cs with
  | c :: d :: rest =>
    if c = quote && d = quote then
      let body := (afterBreak rest).getD rest
      (blockBody quote (quote = '"') (body.length + 1) body).map
        fun (body, rest) => (String.ofList body, rest)
    else lineString quote cs
  | _ => lineString quote cs

end Crosstab.Toml
