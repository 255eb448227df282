import Crosstab.Regex.CharSet

/-!
# General categories as sets

The sets of characters that the general categories name, alone and in groups.
-/

namespace Crosstab.CharSet

open Text (Category)

/-- The characters of some categories. -/
def ofCategories (gs : List Category) : CharSet := runs (gs.flatMap (·.runs))

/-- The categories of letters. -/
def letters : List Category :=
  [.uppercaseLetter, .lowercaseLetter, .titlecaseLetter, .modifierLetter, .otherLetter]

/-- The categories of letters that have case. -/
def casedLetters : List Category := [.uppercaseLetter, .lowercaseLetter, .titlecaseLetter]

/-- The categories of marks. -/
def marks : List Category := [.nonspacingMark, .spacingMark, .enclosingMark]

/-- The categories of numbers. -/
def numbers : List Category := [.decimalNumber, .letterNumber, .otherNumber]

/-- The categories of punctuation. -/
def punctuation : List Category :=
  [.connectorPunctuation, .dashPunctuation, .openPunctuation, .closePunctuation,
   .initialPunctuation, .finalPunctuation, .otherPunctuation]

/-- The categories of symbols. -/
def symbols : List Category := [.mathSymbol, .currencySymbol, .modifierSymbol, .otherSymbol]

/-- The categories of separators. -/
def separators : List Category := [.spaceSeparator, .lineSeparator, .paragraphSeparator]

/-- The code points without a category. -/
def unassigned : CharSet := compl (ofCategories Category.all)

/-- Sets of categories with names of their own. -/
def categoryGroups : List (List String × CharSet) :=
  [(["l", "letter"], ofCategories letters),
   (["lc", "casedletter"], ofCategories casedLetters),
   (["m", "mark", "combiningmark"], ofCategories marks),
   (["n", "number"], ofCategories numbers),
   (["p", "punctuation", "punct"], ofCategories punctuation),
   (["s", "symbol"], ofCategories symbols),
   (["z", "separator"], ofCategories separators),
   (["c", "other"],
    compl (ofCategories (letters ++ marks ++ numbers ++ punctuation ++ symbols ++ separators))),
   (["cn", "unassigned"], unassigned),
   (["assigned"], ofCategories Category.all),
   (["nd", "digit"], ofCategories [.decimalNumber]),
   (["cc", "cntrl"], ofCategories [.control]),
   (["any"], all),
   (["ascii"], runs [⟨0, 127, 1⟩])]

/-- The set of a general category. -/
def category? (name : String) : Option CharSet :=
  match categoryGroups.find? fun g => g.1.contains name with
  | some g => some g.2
  | none => (Category.all.find? fun g => g.code == name || g.fullName == name).map fun g =>
      runs g.runs

end Crosstab.CharSet
