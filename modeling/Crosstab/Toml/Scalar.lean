import Crosstab.Binary64.Decimal
import Crosstab.Calendar.Date
import Crosstab.Json.Basic
import Crosstab.Text.Hex

/-!
# Bare values of settings files

Truth values, numbers, dates and times stand without quotes.  A number may have single underscores
between digits; a whole number may be hexadecimal, octal or binary; a decimal one has no leading
zero.  Of dates and times only that they are well formed counts here, for no setting takes one.
-/

namespace Crosstab.Toml

/-! ## Digits -/

/-- The digits of a numeral in which single underscores may stand between digits. -/
def plainDigits (isDigit : Char → Bool) : List Char → Option (List Char)
  | [] => none
  | c :: rest =>
    if !isDigit c then none
    else match rest with
      | [] => some [c]
      | '_' :: after => (plainDigits isDigit after).map (c :: ·)
      | rest => (plainDigits isDigit rest).map (c :: ·)
termination_by cs => cs.length

/-- The digits of a decimal numeral without a leading zero. -/
def decimalDigits (cs : List Char) : Option (List Char) :=
  match plainDigits Char.isDigit cs with
  | some ('0' :: _ :: _) => none
  | digits => digits

/-- Whether a numeral has a minus sign, and the rest after a sign. -/
def signed : List Char → Bool × List Char
  | '-' :: rest => (true, rest)
  | '+' :: rest => (false, rest)
  | cs => (false, cs)

/-! ## Whole numbers -/

/-- The range of whole numbers. -/
def fits (n : Int) : Bool := -(Nat.pow 2 127 : Int) ≤ n && n < (Nat.pow 2 128 : Int)

/-- A digit of a numeral to some base. -/
def isDigitOf (base : Nat) (c : Char) : Bool := (Text.hexValue? c).any (· < base)

/-- A whole number to some base, without sign. -/
def basedNumber? (base : Nat) (cs : List Char) : Option Nat := do
  let digits ← plainDigits (isDigitOf base) cs
  return digits.foldl (fun n c => n * base + (Text.hexValue? c).getD 0) 0

/-- A whole number. -/
def whole? : List Char → Option Int
  | '0' :: 'x' :: rest => (basedNumber? 16 rest).map Int.ofNat
  | '0' :: 'o' :: rest => (basedNumber? 8 rest).map Int.ofNat
  | '0' :: 'b' :: rest => (basedNumber? 2 rest).map Int.ofNat
  | cs => do
    let (negative, digits) := signed cs
    let n := Binary64.digitsValue (← decimalDigits digits)
    return if negative then -(n : Int) else n

/-! ## Floats -/

/-- A decimal numeral with a fraction, an exponent or both, without sign and underscores. -/
def floatDigits (cs : List Char) : Option (List Char) := do
  let mantissa := cs.takeWhile fun c => c ≠ 'e' && c ≠ 'E'
  let whole ← decimalDigits (mantissa.takeWhile (· ≠ '.'))
  let fraction ← match mantissa.dropWhile (· ≠ '.') with
    | [] => some []
    | mark :: rest => (plainDigits Char.isDigit rest).map (mark :: ·)
  let exponent ← match cs.drop mantissa.length with
    | [] => some []
    | _ :: rest =>
      let (negative, digits) := signed rest
      (plainDigits Char.isDigit digits).map fun ds => 'e' :: (if negative then '-' else '+') :: ds
  return whole ++ fraction ++ exponent

/-- A float; one that is written in digits must be finite. -/
def float? (cs : List Char) : Option Binary64 :=
  let (negative, digits) := signed cs
  if digits = ['i', 'n', 'f'] then
    some (Binary64.ofMagnitudeBits negative Binary64.infinityBits)
  else if digits = ['n', 'a', 'n'] then some (Binary64.zero / Binary64.zero)
  else do
    let x := Binary64.ofNumeral negative (← floatDigits digits)
    if x.isFinite then some x else none

/-! ## Dates and times -/

/-- A number of two digits. -/
def twoDigits : List Char → Option (Nat × List Char)
  | a :: b :: rest =>
    if a.isDigit && b.isDigit then some (Binary64.digitsValue [a, b], rest) else none
  | _ => none

/-- The rest of a text after a character. -/
def afterMark (mark : Char) : List Char → Option (List Char)
  | c :: rest => if c = mark then some rest else none
  | [] => none

/-- The rest of a text after a date. -/
def afterDate (cs : List Char) : Option (List Char) := do
  let (century, rest) ← twoDigits cs
  let (year, rest) ← twoDigits rest
  let (month, rest) ← twoDigits (← afterMark '-' rest)
  let (day, rest) ← twoDigits (← afterMark '-' rest)
  let year := century * 100 + year
  if 1 ≤ month && month ≤ 12 && 1 ≤ day && day ≤ daysInMonth year month then some rest else none

/-- The rest of a text after the seconds of a time of day, which may have a fraction. -/
def afterSeconds (cs : List Char) : Option (List Char) := do
  let (second, rest) ← twoDigits cs
  if 60 < second then none
  else match rest with
    | '.' :: rest =>
      if (rest.headD ' ').isDigit then some (rest.dropWhile Char.isDigit) else none
    | rest => some rest

/-- The rest of a text after a time of day; the seconds may be left out. -/
def afterTime (cs : List Char) : Option (List Char) := do
  let (hour, rest) ← twoDigits cs
  let (minute, rest) ← twoDigits (← afterMark ':' rest)
  if 23 < hour || 59 < minute then none
  else match rest with
    | ':' :: rest => afterSeconds rest
    | rest => some rest

/-- The rest of a text after an offset from universal time, if there is one. -/
def afterOffset : List Char → Option (List Char)
  | [] => some []
  | c :: rest =>
    if c = 'Z' || c = 'z' then some rest
    else if c = '+' || c = '-' then do
      let (hour, rest) ← twoDigits rest
      let (minute, rest) ← twoDigits (← afterMark ':' rest)
      if hour ≤ 23 && minute ≤ 59 then some rest else none
    else none

/-- Whether a text is a date, a time of day, or both with or without an offset. -/
def isDateTime (cs : List Char) : Bool :=
  match afterDate cs with
  | none => afterTime cs == some []
  | some [] => true
  | some (mark :: rest) =>
    (mark = 'T' || mark = 't' || mark = ' ')
      && ((afterTime rest).bind afterOffset) == some []

/-! ## All bare values -/

/-- The structured value of a bare value; a date is an object that no setting reads. -/
def bareValue? (cs : List Char) : Option Json :=
  if cs = ['t', 'r', 'u', 'e'] then some (.bool true)
  else if cs = ['f', 'a', 'l', 's', 'e'] then some (.bool false)
  else match whole? cs with
    | some n => if fits n then some (.whole n) else none
    | none => match float? cs with
      | some x => some (.number (.float x))
      | none =>
        if isDateTime cs then some (.object [("datetime", .string (String.ofList cs))]) else none

/-- Whether a character may be part of a bare value. -/
def isBare (c : Char) : Bool := c.isAlphanum || ['+', '-', '_', '.', ':'].contains c

/-- Reads a bare value; a date may be followed by a space and a time. -/
def readBare (cs : List Char) : Option (Json × List Char) :=
  let first := cs.takeWhile isBare
  let rest := cs.dropWhile isBare
  match rest with
  | ' ' :: c :: after =>
    if c.isDigit && afterDate first == some [] then
      let time := (c :: after).takeWhile isBare
      (bareValue? (first ++ ' ' :: time)).map fun v => (v, (c :: after).dropWhile isBare)
    else (bareValue? first).map fun v => (v, rest)
  | _ => (bareValue? first).map fun v => (v, rest)

end Crosstab.Toml
