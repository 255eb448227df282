import Crosstab.Binary64.Arith

/-!
# Decimal numbers read as binary ones

`ofDecimal` rounds `digits * 10 ^ exponent` once.  An exponent far outside the range of the format
is decided without computing the power.
-/

namespace Crosstab

namespace Binary64

/-- How many decimal digits a number has; zero has one. -/
def decimalLength (n : Nat) : Nat := (Nat.toDigits 10 n).length

/-- The number nearest to `digits * 10 ^ exponent`, with the given sign. -/
def ofDecimal (negative : Bool) (digits : Nat) (exponent : Int) : Binary64 :=
  let top := exponent + decimalLength digits
  if digits = 0 || top < -330 then ofMagnitudeBits negative 0
  else if 310 < top then ofMagnitudeBits negative infinityBits
  else ofRatio negative (digits * Nat.pow 10 exponent.toNat * Nat.pow 2 1074)
    (Nat.pow 10 (-exponent).toNat)

/-- The value of a run of decimal digits. -/
def digitsValue (cs : List Char) : Nat :=
  cs.foldl (fun n c => n * 10 + (c.toNat - '0'.toNat)) 0

/-- The value of a numeral without sign: digits, then an optional fraction after a point, then an
optional exponent after `e` or `E`. -/
def ofNumeral (negative : Bool) (cs : List Char) : Binary64 :=
  let whole := cs.takeWhile Char.isDigit
  let afterWhole := cs.dropWhile Char.isDigit
  let (fraction, afterFraction) := match afterWhole with
    | '.' :: rest => (rest.takeWhile Char.isDigit, rest.dropWhile Char.isDigit)
    | rest => ([], rest)
  let exponent : Int := match afterFraction with
    | _ :: '-' :: rest => -(digitsValue (rest.takeWhile Char.isDigit) : Int)
    | _ :: '+' :: rest => digitsValue (rest.takeWhile Char.isDigit)
    | _ :: rest => digitsValue (rest.takeWhile Char.isDigit)
    | [] => 0
  ofDecimal negative (digitsValue (whole ++ fraction)) (exponent - fraction.length)

/-! ## Texts that may be no numerals -/

/-- Whether a text is nothing but digits, one at least. -/
def isDigits (cs : List Char) : Bool := !cs.isEmpty && cs.all Char.isDigit

/-- Whether a text is nothing or an exponent: `e` or `E`, a sign that may be missing, and digits. -/
def isExponent : List Char → Bool
  | [] => true
  | e :: '-' :: rest => (e = 'e' || e = 'E') && isDigits rest
  | e :: '+' :: rest => (e = 'e' || e = 'E') && isDigits rest
  | e :: rest => (e = 'e' || e = 'E') && isDigits rest

/-- The digits after a point at the head of a text, if there is one, and the text after them. -/
def afterPoint : List Char → List Char × List Char
  | '.' :: rest => (rest.takeWhile Char.isDigit, rest.dropWhile Char.isDigit)
  | rest => ([], rest)

/-- Whether a text is a numeral without sign: digits, possibly with a point before, among or after
them, and then possibly an exponent.  The names of infinities and NaNs are no numerals. -/
def isNumeral (cs : List Char) : Bool :=
  let (fraction, rest) := afterPoint (cs.dropWhile Char.isDigit)
  isDigits (cs.takeWhile Char.isDigit ++ fraction) && isExponent rest

/-- The value of a text, if it is a numeral without sign. -/
def ofNumeral? (cs : List Char) : Option Binary64 :=
  if isNumeral cs then some (ofNumeral false cs) else none

end Binary64

end Crosstab
