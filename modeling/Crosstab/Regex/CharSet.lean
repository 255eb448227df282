import Crosstab.Text.CharClass
import Crosstab.Text.Case

/-!
# Sets of characters

A `CharSet` is the set of characters that one position of a pattern accepts.  It is kept as the
expression that it was written as; `has` decides membership of a code point.
-/

namespace Crosstab

open Text (Run)

/-- A set of code points. -/
inductive CharSet where
  /-- The code points of some runs. -/
  | runs (rs : List Run)
  | union (a b : CharSet)
  | inter (a b : CharSet)
  | symmetric (a b : CharSet)
  | compl (a : CharSet)
  /-- All that differs only in case from a member. -/
  | fold (a : CharSet)
  /-- All that differs only in the case of an ASCII letter from a member. -/
  | foldAscii (a : CharSet)
  deriving Repr

namespace CharSet

/-- The other case of an ASCII letter; any other code point stays. -/
def otherCase (n : Nat) : Nat :=
  if 65 ≤ n && n ≤ 90 then n + 32 else if 97 ≤ n && n ≤ 122 then n - 32 else n

/-- Whether a code point is a member. -/
def has : CharSet → Nat → Bool
  | runs rs, n => rs.any (·.has n)
  | union a b, n => a.has n || b.has n
  | inter a b, n => a.has n && b.has n
  | symmetric a b, n => a.has n != b.has n
  | compl a, n => !a.has n
  | fold a, n => (Text.orbit n).any fun m => a.has m
  | foldAscii a, n => a.has n || a.has (otherCase n)

/-- No characters. -/
def empty : CharSet := runs []

/-- One character. -/
def single (c : Char) : CharSet := runs [⟨c.toNat, c.toNat, 1⟩]

/-- The characters from one to another. -/
def between (a b : Char) : CharSet := runs [⟨a.toNat, b.toNat, 1⟩]

/-- The members of one set that are not in another. -/
def diff (a b : CharSet) : CharSet := inter a (compl b)

/-- All characters. -/
def all : CharSet := compl empty

/-! ## Classes -/

/-- The characters of words. -/
def word : CharSet := runs Text.wordRuns

/-- White space. -/
def space : CharSet := runs Text.blankRuns

/-- Decimal digits. -/
def digit : CharSet := runs Text.Category.decimalNumberRuns

/-- The ASCII characters of words. -/
def asciiWord : CharSet := runs [⟨48, 57, 1⟩, ⟨65, 90, 1⟩, ⟨95, 95, 1⟩, ⟨97, 122, 1⟩]

/-- ASCII white space. -/
def asciiSpace : CharSet := runs [⟨9, 13, 1⟩, ⟨32, 32, 1⟩]

/-- The ASCII digits. -/
def asciiDigit : CharSet := runs [⟨48, 57, 1⟩]

/-- The ASCII classes that are named between colons in brackets. -/
def asciiClasses : List (String × CharSet) :=
  [("alnum", runs [⟨48, 57, 1⟩, ⟨65, 90, 1⟩, ⟨97, 122, 1⟩]),
   ("alpha", runs [⟨65, 90, 1⟩, ⟨97, 122, 1⟩]),
   ("ascii", runs [⟨0, 127, 1⟩]),
   ("blank", runs [⟨9, 9, 1⟩, ⟨32, 32, 1⟩]),
   ("cntrl", runs [⟨0, 31, 1⟩, ⟨127, 127, 1⟩]),
   ("digit", asciiDigit),
   ("graph", runs [⟨33, 126, 1⟩]),
   ("lower", runs [⟨97, 122, 1⟩]),
   ("print", runs [⟨32, 126, 1⟩]),
   ("punct", runs [⟨33, 47, 1⟩, ⟨58, 64, 1⟩, ⟨91, 96, 1⟩, ⟨123, 126, 1⟩]),
   ("space", asciiSpace),
   ("upper", runs [⟨65, 90, 1⟩]),
   ("word", asciiWord),
   ("xdigit", runs [⟨48, 57, 1⟩, ⟨65, 70, 1⟩, ⟨97, 102, 1⟩])]

/-- The ASCII class of a name. -/
def asciiClass? (name : String) : Option CharSet := asciiClasses.lookup name

end CharSet

end Crosstab
