import Crosstab.Clause.Fault
import Crosstab.Text.CharClass

/-!
# Clause text as lexemes

`lexemes` splits the text of a clause.  White space, line comments from `--` and block comments
between `/*` and `*/` separate lexemes; a block comment without an end reaches to the end of the
text.  Strings stand between single quotes and quoted names between double quotes or backticks; in
both a doubled quote stands for one.
-/

namespace Crosstab.Clause

open Crosstab.Text (isBlank isAlphabetic isAlphanumeric)

/-- Whether a character may stand in a name after its first one. -/
def isNameChar (c : Char) : Bool := isAlphanumeric c || c = '_' || c = '$' || c = '.'

/-- Whether a character may start a name. -/
def startsName (c : Char) : Bool := isAlphabetic c || c = '_'

/-- The number of bytes of a text. -/
def byteLength : List Char → Nat
  | [] => 0
  | c :: cs => c.utf8Size + byteLength cs

/-! ## Comments -/

/-- The rest of a text after the end of its line. -/
def afterLine (cs : List Char) : List Char := (cs.dropWhile (· ≠ '\n')).drop 1

/-- The rest of a text after the end of a block comment. -/
def afterBlock : List Char → List Char
  | '*' :: '/' :: rest => rest
  | _ :: rest => afterBlock rest
  | [] => []

/-! ## Quoted text -/

/-- Reads up to the closing quote; the first part has doubled quotes made one. -/
def untilQuote (quote : Char) : List Char → Option (List Char × List Char)
  | [] => none
  | [c] => if c = quote then some ([], []) else none
  | c :: d :: rest =>
    if c = quote then
      if d = quote then (untilQuote quote rest).map fun (cs, rest) => (quote :: cs, rest)
      else some ([], d :: rest)
    else (untilQuote quote (d :: rest)).map fun (cs, rest) => (c :: cs, rest)

/-- Reads text between quotes, the opening one already passed; `offset` is where that one
stands. -/
def quoted (fault : ClauseFault) (quote : Char) (offset : Nat) (cs : List Char) :
    Except ClauseError (List Char × List Char) :=
  match untilQuote quote cs with
  | some r => .ok r
  | none => .error ⟨fault, offset, some (String.singleton quote)⟩

/-- Whether a character quotes names. -/
def quotesNames (c : Char) : Bool := c = '"' || c = '\x60'

/-- Reads the further parts of a quoted name, each after a dot. -/
def nameParts : Nat → Nat → List Char → Except ClauseError (List Char × List Char)
  | fuel + 1, offset, '.' :: c :: rest =>
    if quotesNames c then do
      let (part, after) ← quoted .unterminatedName c (offset + 1) rest
      let stop := offset + 2 + (byteLength rest - byteLength after)
      let (parts, after) ← nameParts fuel stop after
      return ('.' :: part ++ parts, after)
    else if isNameChar c then do
      let isPart (c : Char) : Bool := isNameChar c && c ≠ '.'
      let part := (c :: rest).takeWhile isPart
      let (parts, after) ← nameParts fuel (offset + 1 + byteLength part) ((c :: rest).dropWhile isPart)
      return ('.' :: part ++ parts, after)
    else return ([], '.' :: c :: rest)
  | _, _, cs => return ([], cs)

/-! ## Numbers -/

/-- The exponent of a number and the text after it; it needs at least one digit. -/
def exponentPart (cs : List Char) : List Char × List Char :=
  let digits (head rest : List Char) : List Char × List Char :=
    match rest.takeWhile Char.isDigit with
    | [] => ([], cs)
    | ds => (head ++ ds, rest.dropWhile Char.isDigit)
  match cs with
  | e :: '+' :: rest => if e = 'e' || e = 'E' then digits [e, '+'] rest else ([], cs)
  | e :: '-' :: rest => if e = 'e' || e = 'E' then digits [e, '-'] rest else ([], cs)
  | e :: rest => if e = 'e' || e = 'E' then digits [e] rest else ([], cs)
  | [] => ([], cs)

/-- The fraction of a number, possibly a lone point, and the text after it. -/
def fractionPart : List Char → List Char × List Char
  | '.' :: rest => ('.' :: rest.takeWhile Char.isDigit, rest.dropWhile Char.isDigit)
  | rest => ([], rest)

/-- The number at the head of a text and the text after it. -/
def numeral (cs : List Char) : List Char × List Char :=
  let (fraction, rest) := fractionPart (cs.dropWhile Char.isDigit)
  let (exponent, rest) := exponentPart rest
  (cs.takeWhile Char.isDigit ++ fraction ++ exponent, rest)

/-! ## Operators -/

/-- The operator at the head of a text, the longest one that fits, and the text after it. -/
def sign? : List Char → Option (Sign × List Char)
  | '>' :: '=' :: rest => some (.greaterEqual, rest)
  | '<' :: '=' :: rest => some (.lessEqual, rest)
  | '<' :: '>' :: rest => some (.lessGreater, rest)
  | '!' :: '=' :: rest => some (.bangEqual, rest)
  | '=' :: '=' :: rest => some (.doubleEqual, rest)
  | '=' :: rest => some (.equal, rest)
  | '<' :: rest => some (.less, rest)
  | '>' :: rest => some (.greater, rest)
  | '+' :: rest => some (.plus, rest)
  | '-' :: rest => some (.minus, rest)
  | '*' :: rest => some (.star, rest)
  | '/' :: rest => some (.slash, rest)
  | _ => none

/-! ## Lexemes -/

/-- What a bare word stands for. -/
def wordKind (word : List Char) : LexemeKind :=
  match Keyword.ofWord? (String.ofList word) with
  | some k => .keyword k
  | none => .name (String.ofList word)

/-- Reads what stands at the head of a text: a lexeme, or something to skip. -/
def piece (offset : Nat) (cs : List Char) : Except ClauseError (Option LexemeKind × List Char) :=
  match cs with
  | [] => .ok (none, [])
  | '-' :: '-' :: rest => .ok (none, afterLine rest)
  | '/' :: '*' :: rest => .ok (none, afterBlock rest)
  | '(' :: rest => .ok (some .leftParen, rest)
  | ')' :: rest => .ok (some .rightParen, rest)
  | ',' :: rest => .ok (some .comma, rest)
  | c :: rest =>
    if isBlank c then .ok (none, rest)
    else if c = '\'' then do
      let (s, rest) ← quoted .unterminatedString c offset rest
      return (some (.string (String.ofList s)), rest)
    else if quotesNames c then do
      let (first, after) ← quoted .unterminatedName c offset rest
      let stop := offset + 1 + (byteLength rest - byteLength after)
      let (parts, after) ← nameParts rest.length stop after
      return (some (.name (String.ofList (first ++ parts))), after)
    else if c.isDigit || (c = '.' && (rest.headD ' ').isDigit) then
      let (digits, rest) := numeral cs
      .ok (some (.number (String.ofList digits)), rest)
    else if startsName c then
      .ok (some (wordKind (cs.takeWhile isNameChar)), cs.dropWhile isNameChar)
    else match sign? cs with
      | some (s, rest) => .ok (some (.sign s), rest)
      | none => .error ⟨.strayCharacter c, offset, some (String.singleton c)⟩

/-- Splits a text that starts at an offset; each piece has at least one character. -/
def lexemesFrom : Nat → Nat → List Char → Except ClauseError (List Lexeme)
  | 0, _, _ => .ok []
  | _ + 1, _, [] => .ok []
  | fuel + 1, offset, c :: cs => do
    let (kind?, rest) ← piece offset (c :: cs)
    let source := (c :: cs).take (cs.length + 1 - rest.length)
    let stop := offset + byteLength source
    let later ← lexemesFrom fuel stop rest
    match kind? with
    | some kind => return ⟨kind, offset, stop, String.ofList source⟩ :: later
    | none => return later

/-- Splits the text of a clause into lexemes. -/
def lexemes (s : String) : Except ClauseError (List Lexeme) :=
  let cs := s.toList
  lexemesFrom cs.length 0 cs

end Crosstab.Clause
