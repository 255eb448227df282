import Crosstab.Regex.Interval

/-!
# Intervals of characters in UTF-8

A compiled pattern reads bytes, so an interval of characters becomes a list of paths.  A path gives
a range for each byte of an encoding, and the encodings that fit it are those of neighbouring
characters.
-/

namespace Crosstab

/-- The bytes from `first` to `last`. -/
structure ByteRange where
  /-- The least byte. -/
  first : Nat
  /-- The greatest byte. -/
  last : Nat
  deriving DecidableEq, Repr

/-- Ranges for the bytes of an encoding, from the first byte on. -/
abbrev BytePath := List ByteRange

namespace Interval

/-- The bytes of the encoding of a code point. -/
def bytes (n : Nat) : List Nat := (String.utf8EncodeChar (Char.ofNat n)).map (·.toNat)

/-- The characters whose encodings have the same length, in order; surrogates part those of three
bytes. -/
def equallyLong : List Interval :=
  [⟨0, 0x7F⟩, ⟨0x80, 0x7FF⟩, ⟨0x800, 0xD7FF⟩, ⟨0xE000, 0xFFFF⟩, ⟨0x10000, 0x10FFFF⟩]

/-- The part of an interval in another one. -/
def meet? (i j : Interval) : Option Interval :=
  let k : Interval := ⟨max i.lo j.lo, min i.hi j.hi⟩
  if k.lo ≤ k.hi then some k else none

/-- Parts an interval so that no part has bytes that vary behind a byte that varies, unless they
take all values.  Characters whose encodings differ only in the last bytes lie in a block; the sizes
of the blocks to look at are given, the smallest first. -/
def parts : List Nat → Interval → List Interval
  | [], i => [i]
  | size :: sizes, i =>
    if i.lo / size = i.hi / size then [i]
    else
      let lo := if i.lo % size = 0 then i.lo else (i.lo / size + 1) * size
      let hi := if i.hi % size = size - 1 then i.hi + 1 else i.hi / size * size
      let head := if i.lo < lo then [⟨i.lo, lo - 1⟩] else []
      let tail := if hi ≤ i.hi then [⟨hi, i.hi⟩] else []
      let middle := if lo < hi then parts sizes ⟨lo, hi - 1⟩ else []
      head ++ middle ++ tail

/-- The path of an interval whose ends have encodings of one length. -/
def path (i : Interval) : BytePath := List.zipWith ByteRange.mk (bytes i.lo) (bytes i.hi)

/-- The paths of an interval, in the order of its characters. -/
def paths (i : Interval) : List BytePath :=
  (equallyLong.filterMap i.meet?).flatMap fun part =>
    (if part.hi < 0x80 then [part] else parts [64, 4096, 262144] part).map path

end Interval

end Crosstab
