import Crosstab.Binary64.Basic

/-!
# The shortest decimal text of a number

The text of a finite number has the fewest digits that read back as the same number; among those
the digits nearest to it, and of two equally near the even one.  Up to sixteen places before the
point, and down to four zeros after it, the number is written positionally and always with a
point; otherwise with an exponent.

`shortest` finds the digits with whole-number arithmetic: the reals that round to a number form an
interval, and the coarsest decimal grid with a point inside gives the digits.
-/

namespace Crosstab

namespace Binary64

/-! ## Digits -/

/-- A decimal number `digits * 10 ^ exponent`. -/
structure Decimal where
  /-- The digits as a whole number. -/
  digits : Nat
  /-- The power of ten of the last digit. -/
  exponent : Int
  deriving DecidableEq, Repr

/-- The distance, in quarters of a unit `2 ^ -1074`, from the number down to the reals that round
to its lower neighbour. -/
def gapBelow (x : Binary64) : Nat :=
  (if x.significand = Nat.pow 2 52 && 0 < x.unitExponent then 1 else 2)
    * Nat.pow 2 x.unitExponent

/-- The distance, in quarters of a unit, up to the reals that round to its upper neighbour. -/
def gapAbove (x : Binary64) : Nat := 2 * Nat.pow 2 x.unitExponent

/-- Whether `n / scale` quarters of a unit round to the number; the ends of the interval do when
the significand is even. -/
def roundsTo (x : Binary64) (scale n : Nat) : Bool :=
  let low := (4 * x.magnitude - x.gapBelow) * scale
  let high := (4 * x.magnitude + x.gapAbove) * scale
  if x.significand % 2 = 0 then low ≤ n && n ≤ high else low < n && n < high

/-- The multiple of `10 ^ exponent` nearest to the number, if one rounds to it. -/
def onGrid (x : Binary64) (exponent : Int) : Option Nat :=
  let scale := Nat.pow 10 (-exponent).toNat
  let step := Nat.pow 2 1076 * Nat.pow 10 exponent.toNat
  let centre := 4 * x.magnitude * scale
  let below := centre / step
  let rest := centre % step
  match x.roundsTo scale (below * step), x.roundsTo scale ((below + 1) * step) with
  | false, false => none
  | true, false => some below
  | false, true => some (below + 1)
  | true, true =>
    if 2 * rest < step then some below
    else if step < 2 * rest then some (below + 1)
    else if below % 2 = 0 then some below else some (below + 1)

/-- The first of the grids `exponent`, `exponent - 1`, … with a point that rounds to the number. -/
def firstGrid (x : Binary64) : Nat → Int → Decimal
  | 0, exponent => ⟨0, exponent⟩
  | fuel + 1, exponent => match x.onGrid exponent with
    | some digits => ⟨digits, exponent⟩
    | none => x.firstGrid fuel (exponent - 1)

/-- A power of ten above every number with the magnitude of `x`. -/
def gridAbove (x : Binary64) : Int :=
  ((Nat.log2 x.magnitude : Int) + 1 - 1074) * 30103 / 100000 + 2

/-- The shortest decimal that rounds to a finite number other than zero. -/
def shortest (x : Binary64) : Decimal := x.firstGrid 24 x.gridAbove

/-! ## Text -/

/-- Decimal digits, most significant first. -/
def digitChars (n : Nat) : List Char := Nat.toDigits 10 n

/-- The decimal text of a whole number. -/
def intChars (n : Int) : List Char :=
  if n < 0 then '-' :: digitChars n.natAbs else digitChars n.natAbs

/-- How a decimal is laid out: positionally while the point stands at most sixteen places to the
right or four zeros to the left of the digits, otherwise with an exponent. -/
def Decimal.layout (d : Decimal) : List Char :=
  let ds := digitChars d.digits
  let point : Int := ds.length + d.exponent
  if 0 ≤ d.exponent && point ≤ 16 then ds ++ List.replicate d.exponent.toNat '0' ++ ['.', '0']
  else if 0 < point && point ≤ 16 then ds.take point.toNat ++ '.' :: ds.drop point.toNat
  else if -5 < point && point ≤ 0 then '0' :: '.' :: List.replicate (-point).toNat '0' ++ ds
  else match ds with
    | [c] => c :: 'e' :: intChars (point - 1)
    | c :: rest => c :: '.' :: rest ++ 'e' :: intChars (point - 1)
    | [] => []

/-- The text of a number as a list of characters. -/
def chars (x : Binary64) : List Char :=
  if x.isNaN then "NaN".toList
  else
    let sign := if x.negative then ['-'] else []
    if x.isInfinite then sign ++ "inf".toList
    else if x.isZero then sign ++ "0.0".toList
    else sign ++ x.shortest.layout

/-- The shortest text of a number. -/
def text (x : Binary64) : String := String.ofList x.chars

end Binary64

end Crosstab
