import Workflow.Text.Property.Basic
import Workflow.Text.Script

/-!
# Places in characters, words and sentences

The roles that characters have when a text is cut into user-perceived characters, words and
sentences (version 16 of the character database). Each role follows by a rule from the category and
the properties of a character; a character has at most one role in each of the three.

## Main definitions

* `Workflow.Text.graphemeRole?`, `Workflow.Text.wordRole?`, `Workflow.Text.sentenceRole?` — the
  characters of a role, by its name.
-/

namespace Workflow.Text

/-- The characters of a short table. -/
def listed (table : String) : CharSet := .ofText [table]

/-- The skin tones of emoji. -/
def skinTones : CharSet := Property.emojiModifier.set

/-- The letters that stand for a country in pairs. -/
def regionalIndicators : CharSet := Property.regionalIndicator.set

/-! ### User-perceived characters -/

/-- The characters that continue the one before them, skin tones among them. -/
def graphemeExtenders : CharSet := graphemeExtend.union skinTones

/-- The spacing marks of Myanmar, Tai Tham and Ahom that begin a character of their own, and one of
Tai Viet. -/
def standingMarks : CharSet :=
  .ofText
    ["102B-102C 1038 1062-1064 1067-106D 1083 1087-108C 108F 109A-109C 1A61 1A63-1A64 AA7B AA7D",
     "11720-11721"]

/-- The syllables of Hangul that end in a vowel: every twenty-eighth. -/
def openSyllables : CharSet := .ofCodes ((List.range 399).map fun i => 0xAC00 + 28 * i)

/-- The characters of a role in user-perceived characters. -/
def graphemeRole? : String → Option CharSet
  | "control" | "cn" =>
    some ((CharSet.union
      (ofCategories [.lineSeparator, .paragraphSeparator, .control, .format])
      (defaultIgnorable.inter (ofCategories [.unassigned, .surrogate]))).diff
      (.unions [graphemeExtenders, prependedMark, joinControl, listed "A D"]))
  | "cr" => some (listed "D")
  | "lf" => some (listed "A")
  | "extend" | "ex" => some graphemeExtenders
  | "prepend" | "pp" =>
    some (prependedMark.union
      (.ofText ["D4E 111C2-111C3 113D1 1193F 11941 11A3A 11A84-11A89 11D46 11F02"]))
  | "spacingmark" | "sm" =>
    some (((ofCategories [.spacingMark]).union (.ofText ["E33 EB3"])).diff
      (graphemeExtenders.union standingMarks))
  | "l" => some (.ofText ["1100-115F A960-A97C"])
  | "v" => some (.ofText ["1160-11A7 D7B0-D7C6 16D63 16D67-16D6A"])
  | "t" => some (.ofText ["11A8-11FF D7CB-D7FB"])
  | "lv" => some openSyllables
  | "lvt" => some ((CharSet.range 0xAC00 0xD7A3).diff openSyllables)
  | "regionalindicator" | "ri" => some regionalIndicators
  | "zwj" => some (listed "200D")
  | _ => none

/-! ### Words -/

/-- The characters that continue a word whatever it is. -/
def wordExtenders : CharSet :=
  .unions [graphemeExtenders, ofCategories [.spacingMark]]

/-- The letters of Hebrew. -/
def hebrewLetters : CharSet :=
  ((Script.ofName? "hebr").map fun s => s.set.inter (ofCategories [.otherLetter])).getD .none

/-- The characters of Katakana words. -/
def katakanaLetters : CharSet :=
  (((Script.ofName? "kana").map Script.set).getD .none).union
    (.ofText ["3031-3035 309B-309C 30A0 30FC FF70"])

/-- The signs that stand in words as letters do. -/
def letterSigns : CharSet :=
  .ofText
    ["2C2-2C5 2D2-2D7 2DE-2DF 2E5-2EB 2ED 2EF-2FF 55A-55C 55E 58A 5F3 70F A708-A716 A720-A721",
     "A789-A78A AB5B"]

/-- The scripts whose words are told apart by a dictionary only. -/
def unspacedScripts : CharSet :=
  .ofText ["E01-EDF 1000-108E 1780-17DC 1950-19C9 1A20-1AA7 A9E0-A9FE AA60-AADD 11700-11746"]

/-- The letters of the words that blanks part. -/
def wordLetters : CharSet :=
  (alphabetic.union letterSigns).diff
    (.unions [ideographic, hebrewLetters, katakanaLetters, wordExtenders, unspacedScripts,
      ((Script.ofName? "hira").map Script.set).getD .none])

/-- The characters of a role in words. -/
def wordRole? : String → Option CharSet
  | "aletter" | "le" => some wordLetters
  | "cr" => some (listed "D")
  | "lf" => some (listed "A")
  | "newline" | "nl" => some (listed "B-C 85 2028-2029")
  | "doublequote" | "dq" => some (listed "22")
  | "singlequote" | "sq" => some (listed "27")
  | "extend" => some wordExtenders
  | "extendnumlet" | "ex" =>
    some ((ofCategories [.connectorPunctuation]).union (listed "202F"))
  | "format" | "fo" =>
    some ((ofCategories [.format]).diff
      (.unions [wordExtenders, joinControl, listed "200B", letterSigns]))
  | "hebrewletter" | "hl" => some hebrewLetters
  | "katakana" | "ka" => some (katakanaLetters.diff wordExtenders)
  | "midletter" | "ml" => some (.ofText ["3A B7 387 55F 5F4 2027 FE13 FE55 FF1A"])
  | "midnum" | "mn" =>
    some (.ofText ["2C 3B 37E 589 60C-60D 66C 7F8 2044 FE10 FE14 FE50 FE54 FF0C FF1B"])
  | "midnumlet" | "mb" => some (.ofText ["2E 2018-2019 2024 FE52 FF07 FF0E"])
  | "numeric" | "nu" => some ((ofCategories [.decimalNumber]).union (listed "66B"))
  | "regionalindicator" | "ri" => some regionalIndicators
  | "wsegspace" => some ((ofCategories [.spaceSeparator]).diff (listed "A0 2007 202F"))
  | "zwj" => some (listed "200D")
  | _ => none

/-! ### Sentences -/

/-- The characters that continue the one before them in a sentence. -/
def sentenceExtenders : CharSet :=
  .unions [graphemeExtend, ofCategories [.spacingMark], listed "200D"]

/-- The letters of Georgian, whose cases do not begin sentences. -/
def georgianLetters : CharSet := .ofText ["10D0-10FA 10FD-10FF 1C90-1CBA 1CBD-1CBF"]

/-- The small letters that tell that a sentence goes on. -/
def sentenceLower : CharSet := lowercase.diff (sentenceExtenders.union georgianLetters)

/-- The capitals that begin sentences. -/
def sentenceUpper : CharSet :=
  (uppercase.union (ofCategories [.titlecaseLetter])).diff
    (sentenceExtenders.union georgianLetters)

/-- The stops that may stand within a sentence. -/
def softStops : CharSet := .ofText ["2E 2024 FE52 FF0E"]

/-- The characters of a role in sentences. -/
def sentenceRole? : String → Option CharSet
  | "aterm" | "at" => some softStops
  | "cr" => some (listed "D")
  | "lf" => some (listed "A")
  | "close" | "cl" =>
    some (((ofCategories [.openPunctuation, .closePunctuation, .initialPunctuation,
      .finalPunctuation]).union (.ofText
        ["22 27 275B-2760 2E00-2E01 2E06-2E08 2E0B 1F676-1F678"])).diff
      (sentenceTerminal.union softStops))
  | "extend" | "ex" => some sentenceExtenders
  | "format" | "fo" =>
    some ((ofCategories [.format]).diff
      (.unions [sentenceExtenders, joinControl]))
  | "lower" | "lo" => some sentenceLower
  | "numeric" | "nu" => some ((ofCategories [.decimalNumber]).union (listed "66B-66C"))
  | "oletter" | "le" =>
    some ((alphabetic.union (listed "5F3")).diff
      (.unions [sentenceLower, sentenceUpper, sentenceExtenders]))
  | "scontinue" | "sc" =>
    some (.ofText
      ["2C-2D 3A-3B 37E 55D 60C-60D 7F8 1802 1808 2013-2014 3001 FE10-FE11 FE13-FE14 FE31-FE32",
       "FE50-FE51 FE54-FE55 FE58 FE63 FF0C-FF0D FF1A-FF1B FF64"])
  | "sep" | "se" => some (listed "85 2028-2029")
  | "sp" => some ((CharSet.ofRanges blankRanges).diff (listed "A D 85 2028-2029"))
  | "sterm" | "st" => some (sentenceTerminal.diff softStops)
  | "upper" | "up" => some sentenceUpper
  | _ => none

end Workflow.Text
