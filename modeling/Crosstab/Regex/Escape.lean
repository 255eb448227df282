import Crosstab.Regex.Basic
import Crosstab.Regex.Property
import Crosstab.Text.Hex
import Crosstab.Text.Split

/-!
# Flags and escapes of patterns

The reader of patterns keeps a `Flags` record that says how the characters ahead are to be taken.
`Escape.read?` reads what follows a backslash.  A failure has no text of its own, so all readers
answer with an `Option`.
-/

namespace Crosstab.Regex

open Text (hexValue? charOf?)

/-! ## Flags -/

/-- How the characters of a pattern are taken. -/
structure Flags where
  /-- Letters match in both cases. -/
  ignoreCase : Bool := false
  /-- `^` and `$` match at lines. -/
  multiLine : Bool := false
  /-- A dot matches the end of a line too. -/
  dotAll : Bool := false
  /-- Characters and classes are those of Unicode. -/
  unicode : Bool := true
  /-- Lines may end with a carriage return. -/
  crlf : Bool := false
  /-- White space and comments in the pattern are skipped. -/
  verbose : Bool := false
  /-- Few repetitions are preferred, and many after a question mark. -/
  swapGreed : Bool := false
  deriving DecidableEq, Repr

/-- Sets the flag of a letter. -/
def Flags.set? (f : Flags) (letter : Char) (value : Bool) : Option Flags :=
  if letter = 'i' then some { f with ignoreCase := value }
  else if letter = 'm' then some { f with multiLine := value }
  else if letter = 's' then some { f with dotAll := value }
  else if letter = 'U' then some { f with swapGreed := value }
  else if letter = 'u' then some { f with unicode := value }
  else if letter = 'R' then some { f with crlf := value }
  else if letter = 'x' then some { f with verbose := value }
  else none

/-- Drops white space and comments; a comment reaches to the end of its line. -/
def dropComments (inComment : Bool) : List Char → List Char
  | [] => []
  | c :: rest =>
    if inComment then dropComments (c ≠ '\n') rest
    else if Text.isBlank c then dropComments false rest
    else if c = '#' then dropComments true rest
    else c :: rest

/-- Drops what the flags say is to be skipped. -/
def Flags.skip (f : Flags) (cs : List Char) : List Char :=
  if f.verbose then dropComments false cs else cs

/-- A set with the characters that count as equal to its members. -/
def Flags.foldSet (f : Flags) (s : CharSet) : CharSet :=
  if !f.ignoreCase then s else if f.unicode then .fold s else .foldAscii s

/-- A set, folded and then negated; without Unicode a negated set would hold parts of characters
and is refused. -/
def Flags.foldAndNegate? (f : Flags) (negated : Bool) (s : CharSet) : Option CharSet :=
  let s := f.foldSet s
  if !negated then some s else if f.unicode then some (.compl s) else none

/-! ## Numbers -/

/-- Reads some hexadecimal digits. -/
def hexDigits (f : Flags) : Nat → Nat → List Char → Option (Nat × List Char)
  | 0, n, cs => some (n, cs)
  | count + 1, n, c :: rest => do hexDigits f count (n * 16 + (← hexValue? c)) (f.skip rest)
  | _ + 1, _, [] => none

/-- Reads hexadecimal digits up to a closing brace. -/
def hexBraced (f : Flags) : Nat → Nat → List Char → Option (Nat × List Char)
  | fuel + 1, n, c :: rest =>
    if c = '}' then some (n, f.skip rest)
    else do hexBraced f fuel (n * 16 + (← hexValue? c)) (f.skip rest)
  | _, _, _ => none

/-- Reads the number of a hexadecimal escape after its letter; the second part of the answer tells
whether two bare digits were read. -/
def hexEscape (f : Flags) (letter : Char) (cs : List Char) :
    Option (Char × Bool × List Char) := do
  match f.skip cs with
  | '{' :: rest =>
    let inner := f.skip rest
    if inner.head? = some '}' then none
    else
      let (n, rest) ← hexBraced f inner.length 0 inner
      return (← charOf? n, false, rest)
  | cs =>
    let count := if letter = 'x' then 2 else if letter = 'u' then 4 else 8
    let (n, rest) ← hexDigits f count 0 cs
    return (← charOf? n, letter = 'x', rest)

/-! ## Properties -/

/-- Reads up to a closing brace. -/
def braced (f : Flags) : Nat → List Char → Option (List Char × List Char)
  | fuel + 1, c :: rest =>
    if c = '}' then some ([], rest)
    else do
      let (name, rest) ← braced f fuel (f.skip rest)
      return (c :: name, rest)
  | _, _ => none

/-- The set that the text between the braces of a property names. -/
def propertySet? (f : Flags) (negated : Bool) (name : List Char) : Option CharSet :=
  if !f.unicode then none
  else match Text.splitAt? ['!', '='] name with
    | some (property, value) => do
      f.foldAndNegate? (!negated) (← CharSet.valued? property value)
    | none => match (Text.splitAt? [':'] name).or (Text.splitAt? ['='] name) with
      | some (property, value) => do
        f.foldAndNegate? negated (← CharSet.valued? property value)
      | none => do f.foldAndNegate? negated (← CharSet.named? name)

/-- Reads a property after its letter. -/
def propertyEscape (f : Flags) (negated : Bool) (cs : List Char) :
    Option (CharSet × List Char) := do
  match f.skip cs with
  | '{' :: rest =>
    let inner := f.skip rest
    let (name, rest) ← braced f inner.length inner
    return (← propertySet? f negated name, rest)
  | '\\' :: _ => none
  | c :: rest =>
    if !f.unicode then none
    else return (← f.foldAndNegate? negated (← CharSet.named? [c]), f.skip rest)
  | [] => none

/-! ## Escapes -/

/-- What a backslash and the characters after it stand for. -/
inductive Escape where
  /-- A character; `byte` tells that it was written as two hexadecimal digits. -/
  | char (c : Char) (byte : Bool)
  | set (s : CharSet)
  | look (l : Look)

/-- The characters that have a meaning in patterns. -/
def metaChars : List Char :=
  ['\\', '.', '+', '*', '?', '(', ')', '|', '[', ']', '{', '}', '^', '$', '#', '&', '-', '~']

/-- Whether a backslash in front of a character only takes away its meaning. -/
def isEscapable (c : Char) : Bool :=
  metaChars.contains c || (c.toNat < 128 && !c.isAlphanum && c ≠ '<' && c ≠ '>')

/-- The set of a class that is written as a small letter. -/
def classSet? (unicode : Bool) (letter : Char) : Option CharSet :=
  if letter = 'd' then some (if unicode then .digit else .asciiDigit)
  else if letter = 's' then some (if unicode then .space else .asciiSpace)
  else if letter = 'w' then some (if unicode then .word else .asciiWord)
  else none

/-- The character of an escape for a control character. -/
def controlChar? (letter : Char) : Option Char :=
  [('a', Char.ofNat 7), ('f', Char.ofNat 12), ('t', '\t'), ('n', '\n'), ('r', '\r'),
   ('v', Char.ofNat 11)].lookup letter

/-- Whether a character may stand in the name of a kind of word boundary. -/
def inBoundaryName (c : Char) : Bool := c.isAlpha || c = '-'

/-- Reads the letters of the kind of a word boundary. -/
def boundaryName (f : Flags) : Nat → List Char → List Char × List Char
  | fuel + 1, c :: rest =>
    if inBoundaryName c then
      let (name, rest) := boundaryName f fuel (f.skip rest)
      (c :: name, rest)
    else ([], c :: rest)
  | _, cs => ([], cs)

/-- Reads what follows the letter of a word boundary: possibly its kind in braces. -/
def boundary (f : Flags) (cs : List Char) : Option (Look × List Char) :=
  match cs with
  | '{' :: rest => match f.skip rest with
    | [] => none
    | c :: inner =>
      if !inBoundaryName c then some (.wordBoundary f.unicode, cs)
      else
        let (name, rest) := boundaryName f (inner.length + 1) (c :: inner)
        match rest with
        | '}' :: rest =>
          if name = "start".toList then some (.wordStart f.unicode, rest)
          else if name = "end".toList then some (.wordStop f.unicode, rest)
          else if name = "start-half".toList then some (.wordStartHalf f.unicode, rest)
          else if name = "end-half".toList then some (.wordStopHalf f.unicode, rest)
          else none
        | _ => none
  | _ => some (.wordBoundary f.unicode, cs)

/-- Reads what follows a backslash. -/
def Escape.read? (f : Flags) (cs : List Char) : Option (Escape × List Char) := do
  match cs with
  | [] => none
  | c :: rest =>
    if c.isDigit then none
    else if c = 'x' || c = 'u' || c = 'U' then
      let (d, byte, rest) ← hexEscape f c rest
      return (.char d byte, rest)
    else if c = 'p' || c = 'P' then
      let (s, rest) ← propertyEscape f (c = 'P') rest
      return (.set s, rest)
    else if let some s := classSet? f.unicode c then return (.set s, rest)
    else if let some s := classSet? f.unicode c.toLower then
      if f.unicode then return (.set (.compl s), rest) else none
    else if isEscapable c then return (.char c false, rest)
    else if let some d := controlChar? c then return (.char d false, rest)
    else if c = 'A' then return (.look .start, rest)
    else if c = 'z' then return (.look .stop, rest)
    else if c = 'b' then
      let (l, rest) ← boundary f rest
      return (.look l, rest)
    else if c = 'B' then return (.look (.notWordBoundary f.unicode), rest)
    else if c = '<' then return (.look (.wordStart f.unicode), rest)
    else if c = '>' then return (.look (.wordStop f.unicode), rest)
    else none

end Crosstab.Regex
