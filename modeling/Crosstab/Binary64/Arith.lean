import Crosstab.Binary64.Basic

/-!
# Arithmetic that is rounded once

Each operation is its exact result, rounded to the nearest representable number; a tie goes to the
even significand.  The exact result is a quotient `a / d` in units of `2 ^ -1074`, so that rounding
is one function on natural numbers, `roundMagnitude`.
-/

namespace Crosstab

namespace Binary64

/-! ## Rounding -/

/-- The whole number nearest to `a / d`; a tie goes to the even one. -/
def roundHalfEven (a d : Nat) : Nat :=
  let q := a / d
  let r := a % d
  if 2 * r < d then q
  else if d < 2 * r then q + 1
  else if q % 2 = 0 then q else q + 1

/-- The magnitude bits nearest to `a / d` units of `2 ^ -1074`; past the largest number, those of
infinity. -/
def roundMagnitude (a d : Nat) : Nat :=
  let shift := Nat.log2 (a / d) - 52
  min (shift * Nat.pow 2 52 + roundHalfEven a (d * Nat.pow 2 shift)) infinityBits

/-- The number nearest to `a / d` units of `2 ^ -1074`, with the given sign. -/
def ofRatio (negative : Bool) (a d : Nat) : Binary64 :=
  ofMagnitudeBits negative (roundMagnitude a d)

/-- The number nearest to a whole number. -/
def ofInt (n : Int) : Binary64 := ofRatio (n < 0) (n.natAbs * Nat.pow 2 1074) 1

/-! ## Operations -/

/-- The number with the opposite sign. -/
def neg (x : Binary64) : Binary64 := ofMagnitudeBits (!x.negative) x.magnitudeBits

/-- The rounded sum. -/
def add (x y : Binary64) : Binary64 :=
  if x.isNaN || y.isNaN then undefinedResult
  else if x.isInfinite then
    if y.isInfinite && x.negative != y.negative then undefinedResult else x
  else if y.isInfinite then y
  else
    let sum := x.scaled + y.scaled
    if sum = 0 then ofMagnitudeBits (x.negative && y.negative) 0
    else ofRatio (sum < 0) sum.natAbs 1

/-- The rounded difference. -/
def sub (x y : Binary64) : Binary64 := x.add y.neg

/-- The rounded product. -/
def mul (x y : Binary64) : Binary64 :=
  let sign := x.negative != y.negative
  if x.isNaN || y.isNaN then undefinedResult
  else if x.isInfinite || y.isInfinite then
    if x.isZero || y.isZero then undefinedResult else ofMagnitudeBits sign infinityBits
  else ofRatio sign (x.magnitude * y.magnitude) (Nat.pow 2 1074)

/-- The rounded quotient. -/
def div (x y : Binary64) : Binary64 :=
  let sign := x.negative != y.negative
  if x.isNaN || y.isNaN then undefinedResult
  else if x.isInfinite then
    if y.isInfinite then undefinedResult else ofMagnitudeBits sign infinityBits
  else if y.isInfinite then ofMagnitudeBits sign 0
  else if y.isZero then
    if x.isZero then undefinedResult else ofMagnitudeBits sign infinityBits
  else ofRatio sign (x.magnitude * Nat.pow 2 1074) y.magnitude

instance : Neg Binary64 := ⟨neg⟩
instance : Add Binary64 := ⟨add⟩
instance : Sub Binary64 := ⟨sub⟩
instance : Mul Binary64 := ⟨mul⟩
instance : Div Binary64 := ⟨div⟩

end Binary64

end Crosstab
