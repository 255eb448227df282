import Crosstab.Regex.CategorySet
import Crosstab.Text.Emoji
import Crosstab.Text.Property

/-!
# Derived properties of characters

Properties that rules derive from general categories, letter case and the lists of
`Crosstab.Text`: which characters have case and change with it, which make up identifiers, and which
join the character before them.
-/

namespace Crosstab.CharSet

open Text (Run Category)

/-! ## Letters -/

/-- The characters with the property `Alphabetic`. -/
def alphabetic : CharSet := runs Text.alphabeticRuns

/-- The characters with the property `Lowercase`. -/
def lowercase : CharSet := runs Text.lowercaseRuns

/-- The characters with the property `Uppercase`. -/
def uppercase : CharSet := runs Text.uppercaseRuns

/-- The titlecase letters. -/
def titlecase : CharSet := ofCategories [.titlecaseLetter]

/-- The characters with the property `Ideographic`. -/
def ideographic : CharSet := runs Text.ideographicRuns

/-- The characters with the property `Math`. -/
def math : CharSet := union (ofCategories [.mathSymbol]) (runs Text.otherMathRuns)

/-! ## Letter case -/

/-- The characters that have case. -/
def cased : CharSet := union titlecase (union lowercase uppercase)

/-- The characters that do not count when the neighbours of a cased letter are looked for. -/
def caseIgnorable : CharSet :=
  union (ofCategories [.nonspacingMark, .enclosingMark, .format, .modifierLetter, .modifierSymbol])
    (runs (⟨0x27, 0x27, 1⟩ :: (Text.midLetterRuns ++ Text.midWordRuns)))

/-- The characters that lower case changes. -/
def changesLower : CharSet := runs (⟨0x130, 0x130, 1⟩ :: Text.lowerShifts.map (·.run))

/-- The characters that upper case changes. -/
def changesUpper : CharSet :=
  runs (Text.upperShifts.map (·.run) ++ Text.upperExpansions.map fun e => ⟨e.1, e.1, 1⟩)

/-- The characters that title case changes: capital digraphs do and titlecase letters do not, and
neither do the letters of Georgian. -/
def changesTitle : CharSet :=
  diff (union changesUpper (runs [⟨0x1C4, 0x1CA, 3⟩, ⟨0x1F1, 0x1F1, 1⟩]))
    (union titlecase (runs [⟨0x10D0, 0x10FF, 1⟩]))

/-- The characters that some case changes. -/
def changesCase : CharSet := union changesLower (union changesTitle changesUpper)

/-- The characters that folding changes: those with a simple folding, save three that count as
taken apart, and those whose folding is longer than one character. -/
def changesFolded : CharSet :=
  union
    (diff (runs (Text.foldShifts.map (·.run)))
      (runs [⟨0x1FBE, 0x1FBE, 1⟩, ⟨0x1FD3, 0x1FE3, 16⟩]))
    (runs
      [⟨0xDF, 0xDF, 1⟩, ⟨0x130, 0x130, 1⟩, ⟨0x149, 0x149, 1⟩, ⟨0x587, 0x587, 1⟩,
       ⟨0x1E9A, 0x1E9A, 1⟩, ⟨0x1F80, 0x1F87, 1⟩, ⟨0x1F90, 0x1F97, 1⟩, ⟨0x1FA0, 0x1FA7, 1⟩,
       ⟨0x1FB2, 0x1FB4, 1⟩, ⟨0x1FB7, 0x1FB7, 1⟩, ⟨0x1FC2, 0x1FC4, 1⟩, ⟨0x1FC7, 0x1FC7, 1⟩,
       ⟨0x1FF2, 0x1FF4, 1⟩, ⟨0x1FF7, 0x1FF7, 1⟩, ⟨0xFB00, 0xFB04, 1⟩, ⟨0xFB06, 0xFB06, 1⟩,
       ⟨0xFB13, 0xFB17, 1⟩])

/-! ## Identifiers -/

/-- Characters that are kept for syntax. -/
def reservedForSyntax : CharSet :=
  union (runs Text.patternSyntaxRuns) (runs Text.patternBlankRuns)

/-- Characters that identifiers of programs may start with. -/
def identifierStart : CharSet :=
  diff (union (ofCategories (.letterNumber :: letters)) (runs Text.otherIdentifierStartRuns))
    reservedForSyntax

/-- Characters that identifiers of programs may hold. -/
def identifierPart : CharSet :=
  diff
    (union identifierStart
      (union (ofCategories [.nonspacingMark, .spacingMark, .decimalNumber, .connectorPunctuation])
        (runs Text.otherIdentifierPartRuns)))
    reservedForSyntax

/-- Characters that lose their place in an identifier when they are taken apart. -/
def unstableParts : List Run :=
  [⟨0x37A, 0x37A, 1⟩, ⟨0x309B, 0x309C, 1⟩, ⟨0xFC5E, 0xFC63, 1⟩, ⟨0xFDFA, 0xFDFB, 1⟩,
   ⟨0xFE70, 0xFE7E, 2⟩]

/-- Characters that identifiers may start with, taken apart or not. -/
def stableStart : CharSet :=
  diff identifierStart
    (runs (unstableParts ++ [⟨0xE33, 0xE33, 1⟩, ⟨0xEB3, 0xEB3, 1⟩, ⟨0xFF9E, 0xFF9F, 1⟩]))

/-- Characters that identifiers may hold, taken apart or not. -/
def stablePart : CharSet := diff identifierPart (runs unstableParts)

/-! ## Marks and invisible characters -/

/-- The characters with the property `Grapheme_Extend`, which join the character before them. -/
def graphemeExtend : CharSet :=
  union (ofCategories [.nonspacingMark, .enclosingMark]) (runs Text.otherGraphemeExtendRuns)

/-- The characters with the property `Grapheme_Base`. -/
def graphemeBase : CharSet :=
  diff (ofCategories Category.all)
    (union graphemeExtend
      (ofCategories [.control, .format, .privateUse, .lineSeparator, .paragraphSeparator]))

/-- The code points with the property `Default_Ignorable_Code_Point`, which need not be shown. -/
def defaultIgnorable : CharSet :=
  diff
    (union (ofCategories [.format])
      (union (runs Text.otherIgnorableRuns) (runs Text.variationSelectorRuns)))
    (runs ([⟨0xFFF9, 0xFFFB, 1⟩, ⟨0x13430, 0x1343F, 1⟩] ++ Text.prependedMarkRuns))

end Crosstab.CharSet
