import Crosstab.Json.Basic
import Crosstab.Binary64.Decimal

/-!
# Numbers as they are read

A numeral without fraction and exponent that fits 64 bits is read exactly.  Of any other numeral
the leading digits that fit an unsigned 64-bit number are taken as a whole number and rounded to a
float, which is then scaled by a power of ten; a numeral beyond the largest float is refused.
Scaling rounds a second time, so a numeral of more than fifteen digits need not become the float
nearest to it.
-/

namespace Crosstab.Json

/-- The largest unsigned number of 64 bits. -/
def wordLimit : Nat := Nat.pow 2 64 - 1

/-- Takes digits into a number as long as it fits 64 bits; the second part counts the digits
taken. -/
def absorb (n : Nat) : List Char → Nat × Nat
  | [] => (n, 0)
  | c :: rest =>
    let next := n * 10 + (c.toNat - '0'.toNat)
    if wordLimit < next then (n, 0)
    else
      let (m, count) := absorb next rest
      (m, count + 1)

/-- A power of ten as a float. -/
def tenTo (n : Nat) : Binary64 := Binary64.ofDecimal false 1 n

/-- Multiplies by a power of ten: at most `10 ^ 308` at a time, and never beyond the largest
float. -/
def scale : Nat → Binary64 → Int → Option Binary64
  | 0, x, _ => some x
  | fuel + 1, x, exponent =>
    if exponent.natAbs ≤ 308 then
      if 0 ≤ exponent then
        let y := x * tenTo exponent.natAbs
        if y.isInfinite then none else some y
      else some (x / tenTo exponent.natAbs)
    else if x.isZero then some x
    else if 0 ≤ exponent then none
    else scale fuel (x / tenTo 308) (exponent + 308)

/-- The parts of a numeral. -/
structure Numeral where
  /-- Whether a minus sign stands in front. -/
  negative : Bool
  /-- The digits before the point. -/
  whole : List Char
  /-- The digits after the point, if there is a point. -/
  fraction : Option (List Char)
  /-- Whether the exponent is negative, and its digits, if there is an exponent. -/
  exponent : Option (Bool × List Char)

/-- The largest exponent that is counted. -/
def exponentLimit : Nat := Nat.pow 2 31 - 1

/-- The float that a numeral is read as. -/
def Numeral.float? (t : Numeral) : Option Binary64 :=
  let (wholePart, taken) := absorb 0 t.whole
  let (significand, takenAfter) := absorb wholePart (t.fraction.getD [])
  let start : Int := (t.whole.length - taken : Int) - takenAfter
  let signed (x : Binary64) : Binary64 := if t.negative then x.neg else x
  match t.exponent with
  | none => (scale 8 (Binary64.ofInt significand) start).map signed
  | some (negative, digits) =>
    let e := Binary64.digitsValue digits
    if exponentLimit < e then
      if significand ≠ 0 && !negative then none else some (signed Binary64.zero)
    else
      let exponent := if negative then start - e else start + e
      (scale 8 (Binary64.ofInt significand) exponent).map signed

/-- The number that a numeral stands for. -/
def Numeral.number? (t : Numeral) : Option Number :=
  let n := Binary64.digitsValue t.whole
  match t.fraction, t.exponent with
  | none, none =>
    if !t.negative then
      if n ≤ wordLimit then some (.whole n) else t.float?.map .float
    else if 0 < n && n ≤ Nat.pow 2 63 then some (.whole (-(n : Int)))
    else t.float?.map .float
  | _, _ => t.float?.map .float

/-- Digits, at least one. -/
def someDigits (cs : List Char) : Option (List Char × List Char) :=
  match cs.takeWhile Char.isDigit with
  | [] => none
  | ds => some (ds, cs.dropWhile Char.isDigit)

/-- The digits before the point: a single zero, or digits that start with another one. -/
def wholeDigits (cs : List Char) : Option (List Char × List Char) :=
  match cs with
  | '0' :: rest => if (rest.headD ' ').isDigit then none else some (['0'], rest)
  | _ => someDigits cs

/-- The fraction after a point, if there is one. -/
def fractionDigits (cs : List Char) : Option (Option (List Char) × List Char) :=
  match cs with
  | '.' :: rest => (someDigits rest).map fun (ds, rest) => (some ds, rest)
  | rest => some (none, rest)

/-- The exponent, if there is one. -/
def exponentDigits (cs : List Char) : Option (Option (Bool × List Char) × List Char) :=
  match cs with
  | c :: rest =>
    if c = 'e' || c = 'E' then
      match rest with
      | '+' :: rest => (someDigits rest).map fun (ds, rest) => (some (false, ds), rest)
      | '-' :: rest => (someDigits rest).map fun (ds, rest) => (some (true, ds), rest)
      | rest => (someDigits rest).map fun (ds, rest) => (some (false, ds), rest)
    else some (none, cs)
  | [] => some (none, [])

/-- Reads the numeral at the head of a text. -/
def readNumeral (cs : List Char) : Option (Numeral × List Char) := do
  let (negative, cs) := match cs with
    | '-' :: rest => (true, rest)
    | rest => (false, rest)
  let (whole, cs) ← wholeDigits cs
  let (fraction, cs) ← fractionDigits cs
  let (exponent, cs) ← exponentDigits cs
  return (⟨negative, whole, fraction, exponent⟩, cs)

/-- Reads the number at the head of a text. -/
def readNumber (cs : List Char) : Option (Number × List Char) := do
  let (t, rest) ← readNumeral cs
  return (← t.number?, rest)

end Crosstab.Json
