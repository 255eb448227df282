import Crosstab.Regex.BreakSet
import Crosstab.Text.Age
import Crosstab.Text.ScriptUse

/-!
# Properties of characters by name

A pattern names a property of characters as `name` or as `property=value`.  Names are compared
without case, spaces, hyphens, underscores and a leading `is`.
-/

namespace Crosstab.CharSet

/-- A name without case, separators and a leading `is`; characters beyond ASCII are dropped. -/
def looseName (name : List Char) : String :=
  let squeeze (cs : List Char) : List Char :=
    (cs.filter fun c => c.toNat < 128 && c ≠ ' ' && c ≠ '_' && c ≠ '-').map Char.toLower
  match name with
  | i :: s :: rest =>
    if i.toLower = 'i' && s.toLower = 's' then
      match squeeze rest with
      | ['c'] => "isc"
      | cs => String.ofList cs
    else String.ofList (squeeze name)
  | _ => String.ofList (squeeze name)

/-! ## Properties that hold or not -/

/-- Properties of letters and their case. -/
def letterProperties : List (List String × CharSet) :=
  [(["alphabetic", "alpha"], alphabetic),
   (["otheralphabetic", "oalpha"], runs Text.otherAlphabeticRuns),
   (["lowercase", "lower"], lowercase),
   (["otherlowercase", "olower"], runs Text.otherLowercaseRuns),
   (["uppercase", "upper"], uppercase),
   (["otheruppercase", "oupper"], runs Text.otherUppercaseRuns),
   (["cased"], cased),
   (["caseignorable", "ci"], caseIgnorable),
   (["changeswhenlowercased", "cwl"], changesLower),
   (["changeswhenuppercased", "cwu"], changesUpper),
   (["changeswhentitlecased", "cwt"], changesTitle),
   (["changeswhencasemapped", "cwcm"], changesCase),
   (["changeswhencasefolded", "cwcf"], changesFolded),
   (["softdotted", "sd"], runs Text.softDottedRuns),
   (["logicalorderexception", "loe"], runs Text.logicalOrderExceptionRuns),
   (["ideographic", "ideo"], ideographic),
   (["unifiedideograph", "uideo"], runs Text.unifiedIdeographRuns),
   (["radical"], runs Text.radicalRuns),
   (["idsunaryoperator", "idsu"], runs Text.descriptionOfOneRuns),
   (["idsbinaryoperator", "idsb"], runs Text.descriptionOfTwoRuns),
   (["idstrinaryoperator", "idst"], runs Text.descriptionOfThreeRuns)]

/-- Properties of signs. -/
def signProperties : List (List String × CharSet) :=
  [(["whitespace", "wspace", "space"], space),
   (["patternwhitespace", "patws"], runs Text.patternBlankRuns),
   (["patternsyntax", "patsyn"], runs Text.patternSyntaxRuns),
   (["hexdigit", "hex"], runs Text.hexDigitRuns),
   (["asciihexdigit", "ahex"], runs [⟨48, 57, 1⟩, ⟨65, 70, 1⟩, ⟨97, 102, 1⟩]),
   (["math"], math),
   (["othermath", "omath"], runs Text.otherMathRuns),
   (["dash"], runs Text.dashRuns),
   (["hyphen"], runs Text.hyphenRuns),
   (["quotationmark", "qmark"], runs Text.quotationMarkRuns),
   (["terminalpunctuation", "term"], runs Text.terminalPunctuationRuns),
   (["sentenceterminal", "sterm"], runs Text.sentenceTerminalRuns),
   (["bidimirrored", "bidim"], runs Text.mirroredRuns),
   (["emoji"], runs Text.emojiRuns),
   (["emojipresentation", "epres"], runs Text.emojiPresentationRuns),
   (["emojimodifier", "emod"], runs Text.emojiModifierRuns),
   (["emojimodifierbase", "ebase"], runs Text.emojiModifierBaseRuns),
   (["emojicomponent", "ecomp"], runs Text.emojiComponentRuns),
   (["extendedpictographic", "extpict"], runs Text.pictographicRuns),
   (["regionalindicator", "ri"], runs Text.regionalIndicatorRuns)]

/-- Properties of marks and of characters without a shape. -/
def markProperties : List (List String × CharSet) :=
  [(["diacritic", "dia"], runs Text.diacriticRuns),
   (["extender", "ext"], runs Text.extenderRuns),
   (["modifiercombiningmark", "mcm"], runs Text.modifierCombiningMarkRuns),
   (["prependedconcatenationmark", "pcm"], runs Text.prependedMarkRuns),
   (["graphemebase", "grbase"], graphemeBase),
   (["graphemeextend", "grext"], graphemeExtend),
   (["othergraphemeextend", "ogrext"], runs Text.otherGraphemeExtendRuns),
   (["graphemelink", "grlink"], runs Text.graphemeLinkRuns),
   (["joincontrol", "joinc"], runs Text.joinControlRuns),
   (["bidicontrol", "bidic"], runs Text.bidiControlRuns),
   (["variationselector", "vs"], runs Text.variationSelectorRuns),
   (["defaultignorablecodepoint", "di"], defaultIgnorable),
   (["otherdefaultignorablecodepoint", "odi"], runs Text.otherIgnorableRuns),
   (["noncharactercodepoint", "nchar"], runs Text.noncharacterRuns),
   (["deprecated", "dep"], runs Text.deprecatedRuns)]

/-- Properties of the characters of identifiers. -/
def identifierProperties : List (List String × CharSet) :=
  [(["idstart", "ids"], identifierStart),
   (["idcontinue", "idc"], identifierPart),
   (["xidstart", "xids"], stableStart),
   (["xidcontinue", "xidc"], stablePart),
   (["otheridstart", "oids"], runs Text.otherIdentifierStartRuns),
   (["otheridcontinue", "oidc"], runs Text.otherIdentifierPartRuns),
   (["idcompatmathstart"], runs Text.mathStartRuns),
   (["idcompatmathcontinue"], runs Text.mathContinueRuns)]

/-- The set that a table has under a name. -/
def inTable? (table : List (List String × CharSet)) (name : String) : Option CharSet :=
  (table.find? fun p => p.1.contains name).map (·.2)

/-- The set of a property that holds or not. -/
def plainProperty? (name : String) : Option CharSet :=
  inTable? (letterProperties ++ signProperties ++ markProperties ++ identifierProperties) name

/-! ## Properties with values -/

/-- The characters of a script. -/
def script? (name : String) : Option CharSet := (Text.Script.named? name).map runs

/-- The characters that a script uses: its own that no other script uses, and shared ones. -/
def scriptUse? (name : String) : Option CharSet :=
  (Text.Script.scripts.find? fun s => s.1.contains name).map fun s =>
    union (diff (runs s.2) (runs Text.Script.sharedRuns)) (runs (s.1.flatMap Text.Script.sharedBy))

/-- The set of the characters that have a value of a property. -/
def valued? (property value : List Char) : Option CharSet :=
  let property := looseName property
  let value := looseName value
  let named (names : List String) : Bool := names.contains property
  if named ["generalcategory", "gc"] then category? value
  else if named ["script", "sc"] then script? value
  else if named ["scriptextensions", "scx"] then scriptUse? value
  else if named ["age"] then (Text.Age.usedIn? value).map runs
  else if named ["graphemeclusterbreak", "gcb"] then inTable? graphemeBreaks value
  else if named ["wordbreak", "wb"] then inTable? wordBreaks value
  else if named ["sentencebreak", "sb"] then inTable? sentenceBreaks value
  else none

/-! ## Names -/

/-- The set that a bare name stands for. -/
def named? (name : List Char) : Option CharSet :=
  let name := looseName name
  (plainProperty? name).or ((category? name).or (script? name))

end Crosstab.CharSet
