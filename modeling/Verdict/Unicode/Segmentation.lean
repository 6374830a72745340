import Verdict.Unicode.BinaryProperty
import Verdict.Unicode.Script

/-! How scalar values part a text into graphemes, words and sentences, in edition 16 of
the standard. -/
namespace Verdict
namespace Segmentation

open BinaryProperty (category)

def extenders : ScalarSet := Property.graphemeExtend .v16

def emojiModifiers : ScalarSet := (BinaryProperty.named? "emojimodifier").getD .empty

def numberMarks : ScalarSet := (BinaryProperty.named? "prependedconcatenationmark").getD .empty

def script (name : String) : ScalarSet := (Script.named? name).getD .empty

/-- Separators of lines, controls, and what is ignored before it is assigned. -/
def controls : ScalarSet :=
  (ScalarSet.unions [category .lineSeparator, category .paragraphSeparator, category .control,
    category .format, (category .unassigned).inter Property.defaultIgnorable]).diff
    (.unions [.ofText "a d 200c-200d", numberMarks, extenders])

def looseMarks : ScalarSet := .ofText
  "102b-102c 1038 1062-1064 1067-106d 1083 1087-108c 108f 109a-109c 1a61 1a63-1a64 aa7b aa7d
  11720-11721"

def spacingMarks : ScalarSet :=
  ((category .spacingMark).union (.ofText "e33 eb3")).diff (extenders.union looseMarks)

def openSyllables : ScalarSet := .ofText "ac00-d788/1c"

def grapheme? : String → Option ScalarSet
  | "cr" => some (.ofText "d")
  | "lf" => some (.ofText "a")
  | "cn" | "control" => some controls
  | "ex" | "extend" => some (extenders.union emojiModifiers)
  | "l" => some (.ofText "1100-115f a960-a97c")
  | "v" => some (.ofText "1160-11a7 d7b0-d7c6 16d63 16d67-16d6a")
  | "t" => some (.ofText "11a8-11ff d7cb-d7fb")
  | "lv" => some openSyllables
  | "lvt" => some ((ScalarSet.range 0xac00 0xd7a3).diff openSyllables)
  | "pp" | "prepend" => some (numberMarks.union (.ofText
      "d4e 111c2-111c3 113d1 1193f 11941 11a3a 11a84-11a89 11d46 11f02"))
  | "ri" | "regionalindicator" => BinaryProperty.named? "ri"
  | "sm" | "spacingmark" => some spacingMarks
  | "zwj" => some (.ofText "200d")
  | _ => none

def wordExtenders : ScalarSet :=
  .unions [extenders, category .spacingMark, emojiModifiers]

def formats : ScalarSet := (category .format).diff (extenders.union (.ofText "200b-200d"))

def hebrewLetters : ScalarSet := (script "hebrew").inter (category .otherLetter)

def katakana : ScalarSet :=
  (script "katakana").union (.ofText "3031-3035 309b-309c 30a0 30fc ff70")

/-- Scripts whose words are not told apart by their letters. -/
def unparted : ScalarSet := .ofText
  "e01-e3a e40-e4e e81-e82 e84 e86-e8a e8c-ea3 ea5 ea7-ebd ec0-ec4 ec6 ec8-ece edc-edf 1000-103f
  1050-108f 109a-109f 1780-17d3 17d7 17dc-17dd 1950-196d 1970-1974 1980-19ab 19b0-19c9 19da
  19de-19df 1a20-1a5e 1a60-1a7c 1aa0-1aad a9e0-a9ef a9fa-a9fe aa60-aac2 aadb-aadf 11700-1171a
  1171d-1172b 1173a-1173b 1173f-11746"

def wordLetters : ScalarSet :=
  ((Property.alphabetic .v16).diff (.unions [
    (BinaryProperty.named? "ideographic").getD .empty, katakana, unparted, script "hiragana",
    wordExtenders, hebrewLetters])).union (.ofText
    "2c2-2c5 2d2-2d7 2de-2df 2e5-2eb 2ed 2ef-2ff 55a-55c 55e 58a 5f3 a708-a716 a720-a721 a789-a78a
    ab5b")

def digits : ScalarSet := ScalarSet.decimalDigit.union (.ofText "66b")

def word? : String → Option ScalarSet
  | "cr" => some (.ofText "d")
  | "lf" => some (.ofText "a")
  | "nl" | "newline" => some (.ofText "b-c 85 2028-2029")
  | "dq" | "doublequote" => some (.ofText "22")
  | "sq" | "singlequote" => some (.ofText "27")
  | "le" | "aletter" => some wordLetters
  | "hl" | "hebrewletter" => some hebrewLetters
  | "ka" | "katakana" => some katakana
  | "nu" | "numeric" => some digits
  | "ex" | "extendnumlet" => some ((category .connectorPunctuation).union (.ofText "202f"))
  | "extend" => some wordExtenders
  | "fo" | "format" => some formats
  | "mb" | "midnumlet" => some (.ofText "2e 2018-2019 2024 fe52 ff07 ff0e")
  | "ml" | "midletter" => some (.ofText "3a b7 387 55f 5f4 2027 fe13 fe55 ff1a")
  | "mn" | "midnum" => some (.ofText
      "2c 3b 37e 589 60c-60d 66c 7f8 2044 fe10 fe14 fe50 fe54 ff0c ff1b")
  | "ri" | "regionalindicator" => BinaryProperty.named? "ri"
  | "wsegspace" => some (.ofText "20 1680 2000-2006 2008-200a 205f 3000")
  | "zwj" => some (.ofText "200d")
  | _ => none

/-- Georgian letters, which begin no sentence by their case. -/
def evenLetters : ScalarSet := .ofText "10d0-10fa 10fd-10ff 1c90-1cba 1cbd-1cbf"

def smallLetters : ScalarSet := BinaryProperty.lowercase.diff (extenders.union evenLetters)

def capitalLetters : ScalarSet :=
  (BinaryProperty.uppercase.union (category .titlecaseLetter)).diff evenLetters

def otherLetters : ScalarSet :=
  ((Property.alphabetic .v16).union (.ofText "5f3")).diff
    (.unions [smallLetters, capitalLetters, extenders, category .spacingMark])

/-- Full stops, which end a sentence only at times. -/
def fullStops : ScalarSet := .ofText "2e 2024 fe52 ff0e"

def brackets : ScalarSet := .unions [
  category .openPunctuation, category .closePunctuation, category .initialPunctuation,
  category .finalPunctuation, .ofText "22 27 275b-2760 2e00-2e01 2e06-2e08 2e0b 1f676-1f678"]

def sentence? : String → Option ScalarSet
  | "cr" => some (.ofText "d")
  | "lf" => some (.ofText "a")
  | "se" | "sep" => some (.ofText "85 2028-2029")
  | "sp" => some (ScalarSet.whiteSpace.diff (.ofText "a d 85 2028-2029"))
  | "at" | "aterm" => some fullStops
  | "st" | "sterm" => ((BinaryProperty.named? "sterm").map fun s => s.diff fullStops)
  | "cl" | "close" => some brackets
  | "sc" | "scontinue" => some (.ofText
      "2c-2d 3a 55d 60c-60d 7f8 1802 1808 2013-2014 3001 fe10-fe11 fe13 fe31-fe32 fe50-fe51 fe55
      fe58 fe63 ff0c-ff0d ff1a ff64")
  | "lo" | "lower" => some smallLetters
  | "up" | "upper" => some capitalLetters
  | "le" | "oletter" => some otherLetters
  | "nu" | "numeric" => some (digits.union (.ofText "66c"))
  | "ex" | "extend" => some ((extenders.union (category .spacingMark)).union (.ofText "200d"))
  | "fo" | "format" => some (formats.union (.ofText "200b"))
  | _ => none

end Segmentation
end Verdict
