import Crosstab.Json.Number
import Crosstab.Text.Hex

/-!
# Reading structured values

`read?` accepts exactly one value with white space around it.  A string holds no bare control
character and no escape that stands for half a character; arrays and objects nest at most
`depthLimit` deep.

`readAs?` reads a value of a known shape.  Fields that the shape does not have are left out, and of
them only the grammar counts: a number may be beyond the largest float, an escape may stand for half a
character, and the nesting has no limit.
-/

namespace Crosstab.Json

/-- How deep arrays and objects may nest. -/
def depthLimit : Nat := 127

/-- Whether a character is white space between tokens. -/
def isSpace (c : Char) : Bool := c = ' ' || c = '\n' || c = '\t' || c = '\r'

/-- A text without its leading white space. -/
def skipSpace (cs : List Char) : List Char := cs.dropWhile isSpace

/-- The rest of a text after a word. -/
def afterWord (word : String) (cs : List Char) : Option (List Char) :=
  if word.toList.isPrefixOf cs then some (cs.drop word.length) else none

/-! ## Strings -/

/-- The character of a one-letter escape. -/
def escaped? (c : Char) : Option Char :=
  if c = '"' || c = '\\' || c = '/' then some c
  else if c = 'b' then some (Char.ofNat 8)
  else if c = 'f' then some (Char.ofNat 12)
  else if c = 'n' then some '\n'
  else if c = 'r' then some '\r'
  else if c = 't' then some '\t'
  else none

/-- Reads a string up to its closing quote, the opening one already passed. -/
def stringBody : Nat → List Char → Option (List Char × List Char)
  | 0, _ => none
  | fuel + 1, cs => match cs with
    | [] => none
    | '"' :: rest => some ([], rest)
    | '\\' :: 'u' :: a :: b :: c :: d :: rest => do
      let n ← Text.hexNumber? [a, b, c, d]
      if n < 0xD800 || 0xDFFF < n then
        let (body, rest) ← stringBody fuel rest
        return (Char.ofNat n :: body, rest)
      else if 0xDC00 ≤ n then none
      else match rest with
        | '\\' :: 'u' :: e :: f :: g :: h :: rest => do
          let low ← Text.hexNumber? [e, f, g, h]
          if low < 0xDC00 || 0xDFFF < low then none
          else
            let (body, rest) ← stringBody fuel rest
            return (Char.ofNat (0x10000 + (n - 0xD800) * 0x400 + (low - 0xDC00)) :: body, rest)
        | _ => none
    | '\\' :: c :: rest => do
      let c ← escaped? c
      let (body, rest) ← stringBody fuel rest
      return (c :: body, rest)
    | c :: rest =>
      if c.toNat < 32 || c = '\\' then none
      else do
        let (body, rest) ← stringBody fuel rest
        return (c :: body, rest)

/-- Reads a string after its opening quote. -/
def readString (cs : List Char) : Option (String × List Char) :=
  (stringBody (cs.length + 1) cs).map fun (body, rest) => (String.ofList body, rest)

/-! ## Passing over values -/

/-- The rest of a text after a string, its opening quote already passed. -/
def afterString : Nat → List Char → Option (List Char)
  | 0, _ => none
  | fuel + 1, cs => match cs with
    | [] => none
    | '"' :: rest => some rest
    | '\\' :: 'u' :: a :: b :: c :: d :: rest => do
      let _ ← Text.hexNumber? [a, b, c, d]
      afterString fuel rest
    | '\\' :: c :: rest => do
      let _ ← escaped? c
      afterString fuel rest
    | c :: rest => if c.toNat < 32 || c = '\\' then none else afterString fuel rest

/-- What a value stands in. -/
inductive Enclosure where
  | array
  | object
  deriving DecidableEq, Repr

mutual

/-- The rest of a text after the value at its head and all that encloses it, from the inside. -/
def afterValue : Nat → List Enclosure → List Char → Option (List Char)
  | 0, _, _ => none
  | fuel + 1, outside, cs => match skipSpace cs with
    | '"' :: rest => do afterParts fuel outside (← afterString (rest.length + 1) rest)
    | '[' :: rest => match skipSpace rest with
      | ']' :: rest => afterParts fuel outside rest
      | rest => afterValue fuel (.array :: outside) rest
    | '{' :: rest => match skipSpace rest with
      | '}' :: rest => afterParts fuel outside rest
      | rest => afterField fuel (.object :: outside) rest
    | 'n' :: rest => do afterParts fuel outside (← afterWord "ull" rest)
    | 't' :: rest => do afterParts fuel outside (← afterWord "rue" rest)
    | 'f' :: rest => do afterParts fuel outside (← afterWord "alse" rest)
    | rest => do afterParts fuel outside (← readNumeral rest).2

/-- The rest of a text after the remaining parts of all that encloses the value before it. -/
def afterParts : Nat → List Enclosure → List Char → Option (List Char)
  | 0, _, _ => none
  | _ + 1, [], cs => some cs
  | fuel + 1, enclosure :: outside, cs => match enclosure, skipSpace cs with
    | .array, ',' :: rest => afterValue fuel (.array :: outside) rest
    | .array, ']' :: rest => afterParts fuel outside rest
    | .object, ',' :: rest => afterField fuel (.object :: outside) rest
    | .object, '}' :: rest => afterParts fuel outside rest
    | _, _ => none

/-- The rest of a text after the field at its head and all that encloses it. -/
def afterField : Nat → List Enclosure → List Char → Option (List Char)
  | 0, _, _ => none
  | fuel + 1, outside, cs => match skipSpace cs with
    | '"' :: rest => do
      match skipSpace (← afterString (rest.length + 1) rest) with
      | ':' :: rest => afterValue fuel outside rest
      | _ => none
    | _ => none

end

/-! ## Shapes -/

/-- What is known of a value before it is read. -/
inductive Shape where
  /-- Nothing is known, and all of the value is kept. -/
  | any
  /-- A list has items of one shape. -/
  | list (item : Shape)
  /-- A record has declared fields, in this order if it is written as an array. -/
  | record (fields : List (String × Shape))
  deriving Repr

namespace Shape

/-- A record with fields of which nothing is known. -/
def plain (names : List String) : Shape := record (names.map fun name => (name, any))

/-- The shape of the first item of an array. -/
def first : Shape → Shape
  | list item => item
  | record ((_, shape) :: _) => shape
  | _ => any

/-- The shape of an array without its first item. -/
def rest : Shape → Shape
  | list item => list item
  | record (_ :: fields) => record fields
  | _ => any

/-- The shape of a field of an object, unless the field is left out. -/
def field? (name : String) : Shape → Option Shape
  | record fields => fields.lookup name
  | _ => some any

end Shape

/-! ## Values -/

mutual

/-- Reads the value at the head of a text; `levels` is how deep it may still nest. -/
def readValue : Nat → Shape → Nat → List Char → Option (Json × List Char)
  | 0, _, _, _ => none
  | fuel + 1, shape, levels, cs => match skipSpace cs with
    | '"' :: rest => (readString rest).map fun (s, rest) => (.string s, rest)
    | '[' :: rest => match levels with
      | 0 => none
      | levels + 1 => match skipSpace rest with
        | ']' :: rest => some (.array [], rest)
        | rest => (readItems fuel shape levels rest).map fun (items, rest) => (.array items, rest)
    | '{' :: rest => match levels with
      | 0 => none
      | levels + 1 => match skipSpace rest with
        | '}' :: rest => some (.object [], rest)
        | rest => (readFields fuel shape levels rest).map
          fun (fields, rest) => (.object fields, rest)
    | 'n' :: rest => (afterWord "ull" rest).map fun rest => (.null, rest)
    | 't' :: rest => (afterWord "rue" rest).map fun rest => (.bool true, rest)
    | 'f' :: rest => (afterWord "alse" rest).map fun rest => (.bool false, rest)
    | rest => (readNumber rest).map fun (n, rest) => (.number n, rest)

/-- Reads the items of an array up to its closing bracket. -/
def readItems : Nat → Shape → Nat → List Char → Option (List Json × List Char)
  | 0, _, _, _ => none
  | fuel + 1, shape, levels, cs => do
    let (item, rest) ← readValue fuel shape.first levels cs
    match skipSpace rest with
    | ',' :: rest =>
      let (items, rest) ← readItems fuel shape.rest levels rest
      return (item :: items, rest)
    | ']' :: rest => return ([item], rest)
    | _ => none

/-- Reads the fields of an object up to its closing brace. -/
def readFields : Nat → Shape → Nat → List Char → Option (List (String × Json) × List Char)
  | 0, _, _, _ => none
  | fuel + 1, shape, levels, cs => match skipSpace cs with
    | '"' :: rest => do
      let (name, rest) ← readString rest
      match skipSpace rest with
      | ':' :: rest =>
        let (field, rest) ← match shape.field? name with
          | some shape => do
            let (value, rest) ← readValue fuel shape levels rest
            pure ([(name, value)], rest)
          | none => do pure ([], ← afterValue (2 * rest.length + 2) [] rest)
        match skipSpace rest with
        | ',' :: rest =>
          let (fields, rest) ← readFields fuel shape levels rest
          return (field ++ fields, rest)
        | '}' :: rest => return (field, rest)
        | _ => none
      | _ => none
    | _ => none

end

/-- The value of a known shape that a whole text spells. -/
def readAs? (shape : Shape) (s : String) : Option Json :=
  let cs := s.toList
  match readValue (2 * cs.length + 2) shape depthLimit cs with
  | some (value, rest) => if skipSpace rest = [] then some value else none
  | none => none

/-- The value that a whole text spells. -/
def read? (s : String) : Option Json := readAs? .any s

end Crosstab.Json
