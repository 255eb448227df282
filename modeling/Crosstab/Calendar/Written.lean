import Crosstab.Calendar.Timestamp
import Crosstab.Text.CharClass

/-!
# Dates and timestamps as text

Dates are written `YYYY-MM-DD`.  A year outside 0 to 9999 carries a sign and at least four digits.
Timestamps are written `YYYY-MM-DDTHH:MM:SS` with a fraction of three, six or nine digits when the
second is not whole, or, for display, with a space and without a fraction.

Reading is more liberal than writing: white space may precede a number, a month, day, hour, minute
or second may have one digit, a year with a sign any number of digits, and the digits of a fraction
past the ninth are dropped.  A pattern is a list of `Part`s, read from left to right.
-/

namespace Crosstab.Calendar

open Crosstab.Text (isBlank dropBlanks)

/-! ## Writing -/

/-- A number with at least `width` digits. -/
def padded (width n : Nat) : List Char :=
  let ds := Nat.toDigits 10 n
  List.replicate (width - ds.length) '0' ++ ds

/-- A year. -/
def yearChars (year : Int) : List Char :=
  if 0 ≤ year ∧ year ≤ 9999 then padded 4 year.toNat
  else (if year < 0 then '-' else '+') :: padded 4 year.natAbs

/-- A date. -/
def dateChars (d : Date) : List Char :=
  yearChars d.year ++ '-' :: padded 2 d.month ++ '-' :: padded 2 d.day

/-- Hour, minute and second. -/
def clockChars (t : TimeOfDay) : List Char :=
  padded 2 t.hour.val ++ ':' :: padded 2 t.minute.val ++ ':' :: padded 2 t.second.val

/-- A fraction of a second, in as many groups of three digits as it needs. -/
def fractionChars (nanosecond : Nat) : List Char :=
  if nanosecond = 0 then []
  else if nanosecond % 1000000 = 0 then '.' :: padded 3 (nanosecond / 1000000)
  else if nanosecond % 1000 = 0 then '.' :: padded 6 (nanosecond / 1000)
  else '.' :: padded 9 nanosecond

/-- A timestamp with its fraction. -/
def timestampChars (t : Timestamp) : List Char :=
  dateChars t.date ++ 'T' :: clockChars t.time ++ fractionChars t.time.nanosecond.val

/-- The text of a date. -/
def dateText (d : Date) : String := String.ofList (dateChars d)

/-- The text of a timestamp. -/
def timestampText (t : Timestamp) : String := String.ofList (timestampChars t)

/-- A timestamp for display: a space between date and time, and no fraction. -/
def timestampDisplay (t : Timestamp) : String :=
  String.ofList (dateChars t.date ++ ' ' :: clockChars t.time)

/-! ## Reading -/

/-- What a pattern for dates and times consists of. -/
inductive Part where
  | year
  | month
  | day
  | hour
  | minute
  | second
  /-- An optional fraction of a second. -/
  | fraction
  /-- Any amount of white space. -/
  | blank
  /-- One character. -/
  | mark (c : Char)
  deriving DecidableEq, Repr

/-- The numbers read so far. -/
structure Reading where
  /-- The year. -/
  year : Int
  /-- The month. -/
  month : Nat
  /-- The day. -/
  day : Nat
  /-- The hour. -/
  hour : Nat
  /-- The minute. -/
  minute : Nat
  /-- The second. -/
  second : Nat
  /-- The nanosecond. -/
  nanosecond : Nat

/-- Up to `width` digits at the head of a text, as a number; at least one must be there. -/
def number (width : Nat) (cs : List Char) : Option (Nat × List Char) :=
  match (cs.take width).takeWhile Char.isDigit with
  | [] => none
  | ds => some (ds.foldl (fun n c => n * 10 + (c.toNat - '0'.toNat)) 0, cs.drop ds.length)

/-- A number of one or two digits, after optional white space. -/
def field (cs : List Char) : Option (Nat × List Char) := number 2 (dropBlanks cs)

/-- A year: four digits at most, or a sign and any number of digits. -/
def yearField (cs : List Char) : Option (Int × List Char) :=
  match dropBlanks cs with
  | '-' :: rest => (number rest.length rest).map fun (n, rest) => (-(n : Int), rest)
  | '+' :: rest => (number rest.length rest).map fun (n, rest) => ((n : Int), rest)
  | rest => (number 4 rest).map fun (n, rest) => ((n : Int), rest)

/-- A fraction of a second as nanoseconds; digits past the ninth are dropped. -/
def fractionField (cs : List Char) : Option (Nat × List Char) :=
  match cs with
  | '.' :: rest => match number 9 rest with
    | some (n, after) =>
      some (n * Nat.pow 10 (9 - (rest.length - after.length)), after.dropWhile Char.isDigit)
    | none => none
  | rest => some (0, rest)

/-- Reads one part of a pattern. -/
def Part.read (r : Reading) (cs : List Char) : Part → Option (Reading × List Char)
  | .year => (yearField cs).map fun (n, rest) => ({ r with year := n }, rest)
  | .month => (field cs).map fun (n, rest) => ({ r with month := n }, rest)
  | .day => (field cs).map fun (n, rest) => ({ r with day := n }, rest)
  | .hour => (field cs).map fun (n, rest) => ({ r with hour := n }, rest)
  | .minute => (field cs).map fun (n, rest) => ({ r with minute := n }, rest)
  | .second => (field cs).map fun (n, rest) => ({ r with second := n }, rest)
  | .fraction => (fractionField cs).map fun (n, rest) => ({ r with nanosecond := n }, rest)
  | .blank => some (r, dropBlanks cs)
  | .mark c => match cs with
    | d :: rest => if c = d then some (r, rest) else none
    | [] => none

/-- Reads a whole text by a pattern. -/
def readParts : List Part → Reading → List Char → Option Reading
  | [], r, [] => some r
  | [], _, _ :: _ => none
  | p :: ps, r, cs => match p.read r cs with
    | some (r, rest) => readParts ps r rest
    | none => none

/-- Nothing read yet. -/
def Reading.start : Reading := ⟨0, 1, 1, 0, 0, 0, 0⟩

/-- The pattern of a date. -/
def datePattern : List Part := [.year, .mark '-', .month, .mark '-', .day]

/-- The pattern of a time of day to the fraction of a second. -/
def clockPattern : List Part :=
  [.hour, .mark ':', .minute, .mark ':', .second, .fraction]

/-- The patterns of a timestamp, in the order in which they are tried. -/
def timestampPatterns : List (List Part) :=
  [datePattern ++ .mark 'T' :: clockPattern,
   datePattern ++ .blank :: clockPattern,
   datePattern ++ [.mark 'T', .hour, .mark ':', .minute]]

/-- The date that the numbers read stand for. -/
def Reading.date? (r : Reading) : Option Date := Date.of? r.year r.month r.day

/-- The timestamp that the numbers read stand for. -/
def Reading.timestamp? (r : Reading) : Option Timestamp := do
  let date ← r.date?
  let time ← TimeOfDay.of? r.hour r.minute r.second r.nanosecond
  return ⟨date, time⟩

/-- Reads a date from characters without surrounding white space. -/
def dateOfChars? (cs : List Char) : Option Date :=
  (readParts datePattern Reading.start cs).bind Reading.date?

/-- Reads a timestamp from characters without surrounding white space. -/
def timestampOfChars? (cs : List Char) : Option Timestamp :=
  timestampPatterns.findSome? fun p => (readParts p Reading.start cs).bind Reading.timestamp?

/-- Reads a date; white space around it is ignored. -/
def dateOf? (s : String) : Option Date := dateOfChars? (Text.trim s).toList

/-- Reads a timestamp; white space around it is ignored. -/
def timestampOf? (s : String) : Option Timestamp := timestampOfChars? (Text.trim s).toList

end Crosstab.Calendar
