import Workflow.Text.Blank
import Workflow.Text.Case
import Workflow.Text.Property.Table

/-!
# Properties of characters

The yes-or-no properties of the character database. Most follow by a rule from the general category
and a few tables: letters are what is a letter by category or by use, identifiers are letters with
marks and digits behind them, and so forth.

## Main definitions

* `Workflow.Text.Property` — the properties, and `Workflow.Text.Property.set` their characters.
* `Workflow.Text.Property.ofName?` — the property of a name.
* `Workflow.Text.alphabetic`, `Workflow.Text.wordCharacters` — letters, and the characters of words.
-/

namespace Workflow.Text

/-! ### Letters and words -/

/-- The letters, by category or by use. -/
def alphabetic : CharSet :=
  .unions [lowercase, uppercase, otherAlphabetic,
    ofCategories [.titlecaseLetter, .modifierLetter, .otherLetter, .letterNumber]]

/-- The letters and the numbers of every kind. -/
def alphanumeric : CharSet :=
  alphabetic.union (ofCategories [.decimalNumber, .letterNumber, .otherNumber])

/-- The two characters that join or part their neighbours. -/
def joinControl : CharSet := .ofText ["200C-200D"]

/-- The characters of words: letters, marks, decimal digits, connectors and joiners. -/
def wordCharacters : CharSet :=
  .unions [alphabetic, joinControl,
    ofCategories [.nonspacingMark, .spacingMark, .enclosingMark, .decimalNumber,
      .connectorPunctuation]]

/-- The characters that continue the one before them. -/
def graphemeExtend : CharSet :=
  otherGraphemeExtend.union (ofCategories [.nonspacingMark, .enclosingMark])

/-- The characters that have a form of their own. -/
def graphemeBase : CharSet :=
  (graphemeExtend.union
    (ofCategories [.control, .format, .surrogate, .privateUse, .unassigned, .lineSeparator,
      .paragraphSeparator])).complement

/-- The characters that show nothing where they are not known. -/
def defaultIgnorable : CharSet :=
  (CharSet.unions [otherDefaultIgnorable, ofCategories [.format], variationSelector]).diff
    (prependedMark.union (.ofText ["FFF9-FFFB 13430-1343F"]))

/-! ### Case -/

/-- The characters that have another lower case. -/
def changesWhenLowercased : CharSet :=
  .unions (.ofCodes [0x130] :: lowerRuns.map fun r => .ofCodes r.codes)

/-- The characters that have another upper case. -/
def changesWhenUppercased : CharSet :=
  .unions (.ofCodes (longUppers.map Prod.fst) :: upperRuns.map fun r => .ofCodes r.codes)

/-- The characters that have another title case: the capitals of two letters have one, the
characters in title case and the letters of Georgian have none. -/
def changesWhenTitlecased : CharSet :=
  (changesWhenUppercased.diff
    ((ofCategories [.titlecaseLetter]).union (.ofText ["10D0-10FA 10FD-10FF"]))).union
    (.ofText ["1C4 1C7 1CA 1F1"])

/-- The characters that have another form in any case. -/
def changesWhenCasemapped : CharSet :=
  .unions [changesWhenLowercased, changesWhenUppercased, changesWhenTitlecased]

/-- The characters that have another form when case is set aside: all that have a lower case, but
that the capitals of Cherokee stay, and some small letters that are forms of others. -/
def changesWhenCasefolded : CharSet :=
  (changesWhenLowercased.diff (.ofText ["13A0-13F5"])).union
    (.ofText
      ["B5 DF 149 17F 345 3C2 3D0-3D1 3D5-3D6 3F0-3F1 3F5 587 13F8-13FD 1C80-1C88 1E9A-1E9B",
       "1F80-1F87 1F90-1F97 1FA0-1FA7 1FB2-1FB4 1FB7 1FC2-1FC4 1FC7 1FF2-1FF4 1FF7 AB70-ABBF",
       "FB00-FB06 FB13-FB17"])

/-! ### Identifiers -/

/-- The characters that are never part of an identifier. -/
def patternOnly : CharSet := patternSyntax.union patternWhiteSpace

/-- The characters that start an identifier. -/
def idStart : CharSet :=
  (otherIdStart.union
    (ofCategories [.uppercaseLetter, .lowercaseLetter, .titlecaseLetter, .modifierLetter,
      .otherLetter, .letterNumber])).diff patternOnly

/-- The characters that continue an identifier. -/
def idContinue : CharSet :=
  (CharSet.unions [idStart, otherIdContinue,
    ofCategories [.nonspacingMark, .spacingMark, .decimalNumber, .connectorPunctuation]]).diff
    patternOnly

/-- The characters that continue an identifier and fall apart into characters that do not. -/
def idContinueExceptions : CharSet :=
  .ofText ["37A 309B-309C FC5E-FC63 FDFA-FDFB FE70 FE72 FE74 FE76 FE78 FE7A FE7C FE7E"]

/-- The characters that start an identifier and fall apart into characters that do not. -/
def idStartExceptions : CharSet := idContinueExceptions.union (.ofText ["E33 EB3 FF9E-FF9F"])

/-- The mathematical signs that may start an identifier. -/
def mathIdStart : CharSet :=
  .ofText ["2202 2207 221E 1D6C1 1D6DB 1D6FB 1D715 1D735 1D74F 1D76F 1D789 1D7A9 1D7C3"]

/-- The mathematical signs that may continue an identifier. -/
def mathIdContinue : CharSet :=
  mathIdStart.union (.ofText ["B2-B3 B9 2070 2074-207E 2080-208E"])

/-! ### The properties -/

/-- A property that a character has or has not. -/
inductive Property where
  | asciiHexDigit | alphabetic | bidiControl | bidiMirrored | caseIgnorable | cased
  | changesWhenCasefolded | changesWhenCasemapped | changesWhenLowercased | changesWhenTitlecased
  | changesWhenUppercased | dash | defaultIgnorable | deprecated | diacritic | emoji
  | emojiComponent | emojiModifier | emojiModifierBase | emojiPresentation | extendedPictographic
  | extender | graphemeBase | graphemeExtend | graphemeLink | hexDigit | hyphen | idContinue
  | idStart | ideographic | idsBinaryOperator | idsTrinaryOperator | idsUnaryOperator | joinControl
  | logicalOrderException | lowercase | math | mathIdContinue | mathIdStart | modifierCombiningMark
  | noncharacter | otherAlphabetic | otherDefaultIgnorable | otherGraphemeExtend | otherIdContinue
  | otherIdStart | otherLowercase | otherMath | otherUppercase | patternSyntax | patternWhiteSpace
  | prependedMark | quotationMark | radical | regionalIndicator | sentenceTerminal | softDotted
  | terminalPunctuation | unifiedIdeograph | uppercase | variationSelector | whiteSpace
  | xidContinue | xidStart
deriving DecidableEq, Repr

namespace Property

/-- The characters that have a property. -/
def set : Property → CharSet
  | asciiHexDigit => Text.asciiHexDigit
  | alphabetic => Text.alphabetic
  | bidiControl => Text.bidiControl
  | bidiMirrored => Text.bidiMirrored
  | caseIgnorable => Text.caseIgnorable
  | cased => Text.cased
  | changesWhenCasefolded => Text.changesWhenCasefolded
  | changesWhenCasemapped => Text.changesWhenCasemapped
  | changesWhenLowercased => Text.changesWhenLowercased
  | changesWhenTitlecased => Text.changesWhenTitlecased
  | changesWhenUppercased => Text.changesWhenUppercased
  | dash => Text.dash
  | defaultIgnorable => Text.defaultIgnorable
  | deprecated => Text.deprecated
  | diacritic => Text.diacritic
  | emoji => Text.emoji
  | emojiComponent => Text.emojiComponent
  | emojiModifier => .ofText ["1F3FB-1F3FF"]
  | emojiModifierBase => Text.emojiModifierBase
  | emojiPresentation => Text.emojiPresentation
  | extendedPictographic => Text.extendedPictographic
  | extender => Text.extender
  | graphemeBase => Text.graphemeBase
  | graphemeExtend => Text.graphemeExtend
  | graphemeLink => Text.graphemeLink
  | hexDigit => Text.asciiHexDigit.union (.ofText ["FF10-FF19 FF21-FF26 FF41-FF46"])
  | hyphen => Text.hyphen
  | idContinue => Text.idContinue
  | idStart => Text.idStart
  | ideographic => Text.ideographic
  | idsBinaryOperator => .ofText ["2FF0-2FF1 2FF4-2FFD 31EF"]
  | idsTrinaryOperator => .ofText ["2FF2-2FF3"]
  | idsUnaryOperator => .ofText ["2FFE-2FFF"]
  | joinControl => Text.joinControl
  | logicalOrderException => Text.logicalOrderException
  | lowercase => Text.lowercase
  | math => Text.otherMath.union (ofCategories [.mathSymbol])
  | mathIdContinue => Text.mathIdContinue
  | mathIdStart => Text.mathIdStart
  | modifierCombiningMark => Text.modifierCombiningMark
  | noncharacter => Text.noncharacter
  | otherAlphabetic => Text.otherAlphabetic
  | otherDefaultIgnorable => Text.otherDefaultIgnorable
  | otherGraphemeExtend => Text.otherGraphemeExtend
  | otherIdContinue => Text.otherIdContinue
  | otherIdStart => Text.otherIdStart
  | otherLowercase => Text.otherLowercase
  | otherMath => Text.otherMath
  | otherUppercase => Text.otherUppercase
  | patternSyntax => Text.patternSyntax
  | patternWhiteSpace => Text.patternWhiteSpace
  | prependedMark => Text.prependedMark
  | quotationMark => Text.quotationMark
  | radical => Text.radical
  | regionalIndicator => .ofText ["1F1E6-1F1FF"]
  | sentenceTerminal => Text.sentenceTerminal
  | softDotted => Text.softDotted
  | terminalPunctuation => Text.terminalPunctuation
  | unifiedIdeograph => Text.unifiedIdeograph
  | uppercase => Text.uppercase
  | variationSelector => Text.variationSelector
  | whiteSpace => .ofRanges blankRanges
  | xidContinue => Text.idContinue.diff idContinueExceptions
  | xidStart => Text.idStart.diff idStartExceptions

/-- The names of the properties, in lower case and without blanks, hyphens and underscores: for each
its short and its long ones. -/
def names : List (Property × List String) :=
  [(asciiHexDigit, ["ahex", "asciihexdigit"]), (alphabetic, ["alpha", "alphabetic"]),
   (bidiControl, ["bidic", "bidicontrol"]), (bidiMirrored, ["bidim", "bidimirrored"]),
   (caseIgnorable, ["ci", "caseignorable"]), (cased, ["cased"]),
   (changesWhenCasefolded, ["cwcf", "changeswhencasefolded"]),
   (changesWhenCasemapped, ["cwcm", "changeswhencasemapped"]),
   (changesWhenLowercased, ["cwl", "changeswhenlowercased"]),
   (changesWhenTitlecased, ["cwt", "changeswhentitlecased"]),
   (changesWhenUppercased, ["cwu", "changeswhenuppercased"]), (dash, ["dash"]),
   (defaultIgnorable, ["di", "defaultignorablecodepoint"]), (deprecated, ["dep", "deprecated"]),
   (diacritic, ["dia", "diacritic"]), (emoji, ["emoji"]),
   (emojiComponent, ["ecomp", "emojicomponent"]), (emojiModifier, ["emod", "emojimodifier"]),
   (emojiModifierBase, ["ebase", "emojimodifierbase"]),
   (emojiPresentation, ["epres", "emojipresentation"]),
   (extendedPictographic, ["extpict", "extendedpictographic"]), (extender, ["ext", "extender"]),
   (graphemeBase, ["grbase", "graphemebase"]), (graphemeExtend, ["grext", "graphemeextend"]),
   (graphemeLink, ["grlink", "graphemelink"]), (hexDigit, ["hex", "hexdigit"]),
   (hyphen, ["hyphen"]), (idContinue, ["idc", "idcontinue"]), (idStart, ["ids", "idstart"]),
   (ideographic, ["ideo", "ideographic"]), (idsBinaryOperator, ["idsb", "idsbinaryoperator"]),
   (idsTrinaryOperator, ["idst", "idstrinaryoperator"]),
   (idsUnaryOperator, ["idsu", "idsunaryoperator"]), (joinControl, ["joinc", "joincontrol"]),
   (logicalOrderException, ["loe", "logicalorderexception"]), (lowercase, ["lower", "lowercase"]),
   (math, ["math"]), (mathIdContinue, ["idcompatmathcontinue"]),
   (mathIdStart, ["idcompatmathstart"]),
   (modifierCombiningMark, ["mcm", "modifiercombiningmark"]),
   (noncharacter, ["nchar", "noncharactercodepoint"]),
   (otherAlphabetic, ["oalpha", "otheralphabetic"]),
   (otherDefaultIgnorable, ["odi", "otherdefaultignorablecodepoint"]),
   (otherGraphemeExtend, ["ogrext", "othergraphemeextend"]),
   (otherIdContinue, ["oidc", "otheridcontinue"]), (otherIdStart, ["oids", "otheridstart"]),
   (otherLowercase, ["olower", "otherlowercase"]), (otherMath, ["omath", "othermath"]),
   (otherUppercase, ["oupper", "otheruppercase"]), (patternSyntax, ["patsyn", "patternsyntax"]),
   (patternWhiteSpace, ["patws", "patternwhitespace"]),
   (prependedMark, ["pcm", "prependedconcatenationmark"]),
   (quotationMark, ["qmark", "quotationmark"]), (radical, ["radical"]),
   (regionalIndicator, ["ri", "regionalindicator"]),
   (sentenceTerminal, ["sterm", "sentenceterminal"]), (softDotted, ["sd", "softdotted"]),
   (terminalPunctuation, ["term", "terminalpunctuation"]),
   (unifiedIdeograph, ["uideo", "unifiedideograph"]), (uppercase, ["upper", "uppercase"]),
   (variationSelector, ["vs", "variationselector"]),
   (whiteSpace, ["wspace", "whitespace", "space"]),
   (xidContinue, ["xidc", "xidcontinue"]), (xidStart, ["xids", "xidstart"])]

/-- The property of a name. -/
def ofName? (name : String) : Option Property :=
  (names.find? (·.2.contains name)).map Prod.fst

end Property

end Workflow.Text
