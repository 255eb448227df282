import Crosstab.Regex.CharSet

/-!
# Regular expressions

A `Regex` is searched in a text.  A search looks for any place where the expression matches, so it
only matters which positions of the text a match can join: `ends` maps the positions where matches
may start to those where they may end.  A set of positions is a number whose bit `i` tells whether
position `i`, the one in front of character `i`, is in the set.
-/

namespace Crosstab

/-- What a pattern may ask of a position in the text. -/
inductive Look where
  | start
  | stop
  /-- The start of a line; with `crlf` lines may also end with a carriage return. -/
  | lineStart (crlf : Bool)
  /-- The end of a line. -/
  | lineStop (crlf : Bool)
  | wordBoundary (unicode : Bool)
  | notWordBoundary (unicode : Bool)
  | wordStart (unicode : Bool)
  | wordStop (unicode : Bool)
  /-- No character of a word precedes. -/
  | wordStartHalf (unicode : Bool)
  /-- No character of a word follows. -/
  | wordStopHalf (unicode : Bool)
  deriving DecidableEq, Repr

/-- A regular expression. -/
inductive Regex where
  | empty
  /-- One character of a set. -/
  | chars (s : CharSet)
  | look (l : Look)
  | seq (a b : Regex)
  | alt (a b : Regex)
  /-- At least `least` times, and at most `most` times if that is given; a search does not care
  whether many times are preferred. -/
  | repeat (r : Regex) (least : Nat) (most : Option Nat) (greedy : Bool)
  /-- An expression between parentheses, which may capture what it matches. -/
  | group (r : Regex) (captures : Bool)
  deriving Repr

namespace Look

/-- Whether a character belongs to a word; the end of the text does not. -/
def inWord (unicode : Bool) (c : Option Char) : Bool :=
  c.any fun c => if unicode then Text.isWordChar c else c.isAlphanum || c == '_'

/-- Whether a position between two characters, or at an end of the text, is as asked. -/
def holds (before after : Option Char) : Look → Bool
  | start => before.isNone
  | stop => after.isNone
  | lineStart false => before.isNone || before == some '\n'
  | lineStop false => after.isNone || after == some '\n'
  | lineStart true =>
    before.isNone || before == some '\n' || (before == some '\r' && after != some '\n')
  | lineStop true =>
    after.isNone || after == some '\r' || (after == some '\n' && before != some '\r')
  | wordBoundary u => inWord u before != inWord u after
  | notWordBoundary u => inWord u before == inWord u after
  | wordStart u => !inWord u before && inWord u after
  | wordStop u => inWord u before && !inWord u after
  | wordStartHalf u => !inWord u before
  | wordStopHalf u => !inWord u after

/-- The positions of a text that are as asked, where a character may precede the text. -/
def positions (l : Look) (before : Option Char) : List Char → Nat
  | [] => (l.holds before none).toNat
  | c :: rest => (l.holds before (some c)).toNat + 2 * l.positions (some c) rest

end Look

/-- The positions of a text in front of a character of a set. -/
def CharSet.positions (s : CharSet) : List Char → Nat
  | [] => 0
  | c :: rest => (s.has c.toNat).toNat + 2 * s.positions rest

namespace Regex

/-! ## Searching -/

/-- Applies a step some times in sequence; once a step changes nothing, no further one does. -/
def times (step : Nat → Nat) : Nat → Nat → Nat
  | 0, ps => ps
  | n + 1, ps => let next := step ps; if next = ps then ps else times step n next

/-- Applies a step up to some times, keeping every position on the way. -/
def upTo (step : Nat → Nat) : Nat → Nat → Nat
  | 0, ps => ps
  | n + 1, ps => let next := ps ||| step ps; if next = ps then ps else upTo step n next

/-- The positions at which a match may end that starts at one of `starts`. -/
def ends (text : List Char) : Regex → Nat → Nat
  | empty, starts => starts
  | chars s, starts => (starts &&& s.positions text) * 2
  | look l, starts => starts &&& l.positions none text
  | seq a b, starts => b.ends text (a.ends text starts)
  | alt a b, starts => a.ends text starts ||| b.ends text starts
  | .repeat r least most _, starts =>
    let more := match most with
      | some n => n - least
      | none => text.length + 1
    upTo (r.ends text) more (times (r.ends text) least starts)
  | group r _, starts => r.ends text starts

/-- Every position of a text. -/
def everywhere (text : List Char) : Nat := Nat.pow 2 (text.length + 1) - 1

/-- Whether the expression matches anywhere in a text. -/
def matchesIn (r : Regex) (text : String) : Bool :=
  r.ends text.toList (everywhere text.toList) != 0

end Regex

end Crosstab
