/-!
# Binary floating point numbers of 64 bits

A `Binary64` is its bit pattern: sign, eleven bits of exponent, fifty-two bits of fraction.  Two of
them are equal when their bits are, so the two zeros differ and a NaN equals itself.

Every finite number is a whole multiple of `2 ^ -1074`; `scaled` is that multiple.  `compare?` is
the numeric comparison, undefined at NaN, and `totalOrder` the total order by bit pattern that puts
`-0.0` before `0.0` and the NaNs at the two ends.
-/

namespace Crosstab

/-- A binary floating point number, given by its bits. -/
structure Binary64 where
  /-- The bit pattern: sign, exponent, fraction. -/
  bits : UInt64
  deriving DecidableEq, Repr, Inhabited

namespace Binary64

/-! ## Fields -/

/-- The bit pattern as a natural number. -/
def word (x : Binary64) : Nat := x.bits.toNat

/-- Whether the sign bit is set. -/
def negative (x : Binary64) : Bool := Nat.pow 2 63 ≤ x.word

/-- The bits below the sign, which grow with the absolute value. -/
def magnitudeBits (x : Binary64) : Nat := x.word % Nat.pow 2 63

/-- The magnitude bits of the infinities. -/
def infinityBits : Nat := 2047 * Nat.pow 2 52

/-- The number with the given sign and magnitude bits. -/
def ofMagnitudeBits (negative : Bool) (magnitude : Nat) : Binary64 :=
  ⟨UInt64.ofNat ((if negative then Nat.pow 2 63 else 0) + magnitude)⟩

/-- Whether the pattern stands for no number. -/
def isNaN (x : Binary64) : Bool := infinityBits < x.magnitudeBits

/-- Whether the pattern stands for an infinity. -/
def isInfinite (x : Binary64) : Bool := x.magnitudeBits == infinityBits

/-- Whether the pattern stands for a number. -/
def isFinite (x : Binary64) : Bool := x.magnitudeBits < infinityBits

/-- Whether the number is one of the two zeros. -/
def isZero (x : Binary64) : Bool := x.magnitudeBits == 0

/-! ## Values -/

/-- The whole number that the fraction and the hidden bit spell. -/
def significand (x : Binary64) : Nat :=
  if x.magnitudeBits < Nat.pow 2 52 then x.magnitudeBits
  else Nat.pow 2 52 + x.magnitudeBits % Nat.pow 2 52

/-- The power of two, above `-1074`, that the significand is multiplied by. -/
def unitExponent (x : Binary64) : Nat := x.magnitudeBits / Nat.pow 2 52 - 1

/-- The absolute value of a finite number in units of `2 ^ -1074`. -/
def magnitude (x : Binary64) : Nat := x.significand * Nat.pow 2 x.unitExponent

/-- The value of a finite number in units of `2 ^ -1074`. -/
def scaled (x : Binary64) : Int := if x.negative then -(x.magnitude : Int) else x.magnitude

/-! ## Constants -/

/-- Positive zero. -/
def zero : Binary64 := ⟨0⟩

/-- Positive infinity. -/
def infinity : Binary64 := ofMagnitudeBits false infinityBits

/-- The NaN that arithmetic yields where a result is undefined. -/
def undefinedResult : Binary64 := ⟨0xFFF8000000000000⟩

/-- The NaN that a text stands for which is no number. -/
def notANumber : Binary64 := ⟨0x7FF8000000000000⟩

/-! ## Order -/

/-- The signed magnitude bits: they order all numbers and give both zeros the same key. -/
def numericKey (x : Binary64) : Int :=
  if x.negative then -(x.magnitudeBits : Int) else x.magnitudeBits

/-- The numeric comparison, undefined when a side is NaN. -/
def compare? (x y : Binary64) : Option Ordering :=
  if x.isNaN || y.isNaN then none else some (compare x.numericKey y.numericKey)

/-- The key of the total order: below zero the patterns run backwards. -/
def totalKey (x : Binary64) : Int :=
  if x.negative then -(x.magnitudeBits : Int) - 1 else x.magnitudeBits

/-- The total order on all patterns. -/
def totalOrder (x y : Binary64) : Ordering := compare x.totalKey y.totalKey

/-- Every pattern has the same place as itself. -/
theorem totalOrder_self (x : Binary64) : x.totalOrder x = .eq := by simp [totalOrder]

end Binary64

end Crosstab
