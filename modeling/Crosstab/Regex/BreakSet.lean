import Crosstab.Regex.DerivedSet
import Crosstab.Text.Script

/-!
# Break properties

For the places where text may be divided into characters as users see them, into words and into
sentences, every character has a value of a break property.  The tables pair the names of a value
with its characters; the value of all other characters has no set.
-/

namespace Crosstab.CharSet

open Text (Run)

/-! ## Characters as users see them -/

/-- The carriage return. -/
def carriageReturn : CharSet := runs [⟨0xD, 0xD, 1⟩]

/-- The line feed. -/
def lineFeed : CharSet := runs [⟨0xA, 0xA, 1⟩]

/-- The joiner that glues emoji together. -/
def joiner : CharSet := runs [⟨0x200D, 0x200D, 1⟩]

/-- Characters that stay with the one before them. -/
def breakExtend : CharSet := union graphemeExtend (runs Text.emojiModifierRuns)

/-- Spacing marks that stay with the character before them. -/
def graphemeSpacing : CharSet :=
  union
    (diff (ofCategories [.spacingMark])
      (union breakExtend
        (runs
          [⟨0x102B, 0x102C, 1⟩, ⟨0x1038, 0x1038, 1⟩, ⟨0x1062, 0x1064, 1⟩, ⟨0x1067, 0x106D, 1⟩,
           ⟨0x1083, 0x1083, 1⟩, ⟨0x1087, 0x108C, 1⟩, ⟨0x108F, 0x108F, 1⟩, ⟨0x109A, 0x109C, 1⟩,
           ⟨0x1A61, 0x1A61, 1⟩, ⟨0x1A63, 0x1A64, 1⟩, ⟨0xAA7B, 0xAA7B, 1⟩, ⟨0xAA7D, 0xAA7D, 1⟩,
           ⟨0x11720, 0x11721, 1⟩])))
    (runs [⟨0xE33, 0xE33, 1⟩, ⟨0xEB3, 0xEB3, 1⟩])

/-- Characters that stand alone. -/
def graphemeControl : CharSet :=
  diff
    (union (ofCategories [.lineSeparator, .paragraphSeparator, .control, .format])
      (inter unassigned defaultIgnorable))
    (union (union carriageReturn lineFeed)
      (union (union joiner graphemeExtend) (runs Text.prependedMarkRuns)))

/-- Syllables of Hangul that end in a vowel. -/
def hangulOpen : CharSet := runs [⟨0xAC00, 0xD788, 28⟩]

/-- The values for characters as users see them. -/
def graphemeBreaks : List (List String × CharSet) :=
  [(["cr"], carriageReturn),
   (["lf"], lineFeed),
   (["control", "cn"], graphemeControl),
   (["extend", "ex"], breakExtend),
   (["zwj"], joiner),
   (["regionalindicator", "ri"], runs Text.regionalIndicatorRuns),
   (["prepend", "pp"], runs (Text.prependedMarkRuns ++
     [⟨0xD4E, 0xD4E, 1⟩, ⟨0x111C2, 0x111C3, 1⟩, ⟨0x113D1, 0x113D1, 1⟩, ⟨0x1193F, 0x1193F, 1⟩,
      ⟨0x11941, 0x11941, 1⟩, ⟨0x11A3A, 0x11A3A, 1⟩, ⟨0x11A84, 0x11A89, 1⟩, ⟨0x11D46, 0x11D46, 1⟩,
      ⟨0x11F02, 0x11F02, 1⟩])),
   (["spacingmark", "sm"], graphemeSpacing),
   (["l"], runs [⟨0x1100, 0x115F, 1⟩, ⟨0xA960, 0xA97C, 1⟩]),
   (["v"], runs
     [⟨0x1160, 0x11A7, 1⟩, ⟨0xD7B0, 0xD7C6, 1⟩, ⟨0x16D63, 0x16D63, 1⟩, ⟨0x16D67, 0x16D6A, 1⟩]),
   (["t"], runs [⟨0x11A8, 0x11FF, 1⟩, ⟨0xD7CB, 0xD7FB, 1⟩]),
   (["lv"], hangulOpen),
   (["lvt"], diff (runs [⟨0xAC00, 0xD7A3, 1⟩]) hangulOpen)]

/-! ## Words -/

/-- Signs that belong to the number after them. -/
def numberSigns : CharSet := diff (runs Text.prependedMarkRuns) (runs [⟨0x70F, 0x70F, 1⟩])

/-- Characters that stay with the word before them. -/
def wordExtend : CharSet := union breakExtend (ofCategories [.spacingMark])

/-- Invisible characters that stay with the word before them. -/
def wordFormat : CharSet :=
  diff (ofCategories [.format])
    (union graphemeExtend (runs (⟨0x200B, 0x200B, 1⟩ :: ⟨0x200D, 0x200D, 1⟩
      :: Text.prependedMarkRuns)))

/-- Characters of Katakana and signs used with them. -/
def wordKatakana : CharSet :=
  runs (Text.Script.katakanaRuns ++
    [⟨0x3031, 0x3035, 1⟩, ⟨0x309B, 0x309C, 1⟩, ⟨0x30A0, 0x30A0, 1⟩, ⟨0x30FC, 0x30FC, 1⟩,
     ⟨0xFF70, 0xFF70, 1⟩])

/-- Letters of Hebrew. -/
def wordHebrew : CharSet := inter (runs Text.Script.hebrewRuns) (ofCategories [.otherLetter])

/-- Digits and what belongs to a number. -/
def wordNumeric : CharSet :=
  union (union digit numberSigns) (runs [⟨0x66B, 0x66B, 1⟩, ⟨0x19DA, 0x19DA, 1⟩])

/-- Connectors of words and numbers. -/
def wordConnector : CharSet :=
  union (ofCategories [.connectorPunctuation]) (runs [⟨0x202F, 0x202F, 1⟩])

/-- The scripts that are written without spaces between words. -/
def unspacedScripts : CharSet :=
  runs (Text.Script.thaiRuns ++ Text.Script.laoRuns ++ Text.Script.myanmarRuns
    ++ Text.Script.khmerRuns ++ Text.Script.taiLeRuns ++ Text.Script.newTaiLueRuns
    ++ Text.Script.taiThamRuns ++ Text.Script.taiVietRuns ++ Text.Script.ahomRuns
    ++ Text.Script.hiraganaRuns)

/-- Signs that count as letters of a word. -/
def wordSigns : List Run :=
  [⟨0x2C2, 0x2C5, 1⟩, ⟨0x2D2, 0x2D7, 1⟩, ⟨0x2DE, 0x2DF, 1⟩, ⟨0x2E5, 0x2EB, 1⟩, ⟨0x2ED, 0x2ED, 1⟩,
   ⟨0x2EF, 0x2FF, 1⟩, ⟨0x55A, 0x55C, 1⟩, ⟨0x55E, 0x55E, 1⟩, ⟨0x58A, 0x58A, 1⟩, ⟨0x5F3, 0x5F3, 1⟩,
   ⟨0x70F, 0x70F, 1⟩, ⟨0xA708, 0xA716, 1⟩, ⟨0xA720, 0xA721, 1⟩, ⟨0xA789, 0xA78A, 1⟩,
   ⟨0xAB5B, 0xAB5B, 1⟩]

/-- Letters of words. -/
def wordLetter : CharSet :=
  union (runs wordSigns)
    (diff alphabetic
      (union (union ideographic unspacedScripts)
        (union (union wordExtend wordNumeric)
          (union (union wordKatakana wordHebrew) wordConnector))))

/-- The values for words. -/
def wordBreaks : List (List String × CharSet) :=
  [(["cr"], carriageReturn),
   (["lf"], lineFeed),
   (["newline", "nl"], runs [⟨0xB, 0xC, 1⟩, ⟨0x85, 0x85, 1⟩, ⟨0x2028, 0x2029, 1⟩]),
   (["extend"], wordExtend),
   (["format", "fo"], wordFormat),
   (["zwj"], joiner),
   (["regionalindicator", "ri"], runs Text.regionalIndicatorRuns),
   (["katakana", "ka"], wordKatakana),
   (["hebrewletter", "hl"], wordHebrew),
   (["aletter", "le"], wordLetter),
   (["singlequote", "sq"], runs [⟨0x27, 0x27, 1⟩]),
   (["doublequote", "dq"], runs [⟨0x22, 0x22, 1⟩]),
   (["midnumlet", "mb"], runs Text.midWordRuns),
   (["midletter", "ml"], runs Text.midLetterRuns),
   (["midnum", "mn"], runs Text.midNumberRuns),
   (["numeric", "nu"], wordNumeric),
   (["extendnumlet", "ex"], wordConnector),
   (["wsegspace"], diff (ofCategories [.spaceSeparator])
     (runs [⟨0xA0, 0xA0, 1⟩, ⟨0x2007, 0x2007, 1⟩, ⟨0x202F, 0x202F, 1⟩]))]

/-! ## Sentences -/

/-- Characters that stay with what precedes them in a sentence. -/
def sentenceExtend : CharSet := union (union graphemeExtend joiner) (ofCategories [.spacingMark])

/-- Separators of paragraphs. -/
def sentenceSeparator : CharSet := runs [⟨0x85, 0x85, 1⟩, ⟨0x2028, 0x2029, 1⟩]

/-- Small letters; those of Georgian do not tell where a sentence starts. -/
def sentenceLower : CharSet :=
  diff lowercase (union graphemeExtend (runs [⟨0x10D0, 0x10FA, 1⟩, ⟨0x10FD, 0x10FF, 1⟩]))

/-- Capital letters, without those of Georgian. -/
def sentenceUpper : CharSet :=
  diff (union uppercase titlecase) (runs [⟨0x1C90, 0x1CBF, 1⟩])

/-- The values for sentences. -/
def sentenceBreaks : List (List String × CharSet) :=
  [(["cr"], carriageReturn),
   (["lf"], lineFeed),
   (["extend", "ex"], sentenceExtend),
   (["sep", "se"], sentenceSeparator),
   (["format", "fo"], diff (ofCategories [.format])
     (union numberSigns (union graphemeExtend joiner))),
   (["sp"], diff space (union sentenceSeparator (union carriageReturn lineFeed))),
   (["lower", "lo"], sentenceLower),
   (["upper", "up"], sentenceUpper),
   (["oletter", "le"], diff (union alphabetic (runs [⟨0x5F3, 0x5F3, 1⟩]))
     (union sentenceExtend (union sentenceLower sentenceUpper))),
   (["numeric", "nu"], union wordNumeric (runs [⟨0x66C, 0x66C, 1⟩])),
   (["aterm", "at"], runs Text.fullStopRuns),
   (["scontinue", "sc"], runs Text.sentenceContinueRuns),
   (["sterm", "st"], diff (runs Text.sentenceTerminalRuns) (runs Text.fullStopRuns)),
   (["close", "cl"], union
     (ofCategories [.openPunctuation, .closePunctuation, .initialPunctuation, .finalPunctuation])
     (runs [⟨0x22, 0x22, 1⟩, ⟨0x27, 0x27, 1⟩, ⟨0x275B, 0x2760, 1⟩, ⟨0x2E00, 0x2E01, 1⟩,
       ⟨0x2E06, 0x2E08, 1⟩, ⟨0x2E0B, 0x2E0B, 1⟩, ⟨0x1F676, 0x1F678, 1⟩]))]

end Crosstab.CharSet
