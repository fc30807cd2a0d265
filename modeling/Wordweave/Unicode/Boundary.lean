import Wordweave.Unicode.Binary

/-!
# Wordweave — boundaries

The roles that characters play where a text is divided into graphemes, words and sentences.
-/

namespace Wordweave.Unicode

/-! ## Graphemes -/

/-- Controls: they stand alone. -/
def breakControl : Description :=
    (((Description.unions
      [lineSeparators, paragraphSeparators, controls, formats,
        unassigned.inter defaultIgnorable]).less "A D 200C 200D").diff
      prependedMark).diff graphemeExtend

/-- Characters that lengthen a grapheme. -/
def breakExtend : Description := .union graphemeExtend emojiModifier

/-- Korean syllables of two letters. -/
def syllablePair : Description := .listed "AC00-D788/1C"

/-- Korean syllables of three letters. -/
def syllableTriple : Description := (Description.listed "AC00-D7A3").diff syllablePair

/-- Characters that lengthen the grapheme after them. -/
def breakPrepend : Description := prependedMark.plus
    "D4E 111C2-111C3 113D1 1193F 11941 11A3A 11A84-11A89 11D46 11F02"

/-- Marks with a width of their own. -/
def breakSpacingMark : Description := ((spacingMarks.diff graphemeExtend).plus
    "E33 EB3").less
    "102B-102C 1038 1062-1064 1067-106D 1083 1087-108C 108F 109A-109C 1A61 1A63-1A64 AA7B
     AA7D 11720-11721"

/-- Leading Korean consonants. -/
def leadingJamo : Description := .listed
    "1100-115F A960-A97C"

/-- Korean vowels. -/
def vowelJamo : Description := .listed
    "1160-11A7 D7B0-D7C6 16D63 16D67-16D6A"

/-- Trailing Korean consonants. -/
def trailingJamo : Description := .listed
    "11A8-11FF D7CB-D7FB"

/-- The characters with a role in the division into graphemes, by the name of the role. -/
def graphemeBreak? : String → Option Description
  | "control" | "cn" => some breakControl
  | "cr" => some (.listed "D")
  | "extend" | "ex" => some breakExtend
  | "l" => some leadingJamo
  | "lf" => some (.listed "A")
  | "lv" => some syllablePair
  | "lvt" => some syllableTriple
  | "prepend" | "pp" => some breakPrepend
  | "regionalindicator" | "ri" => some regionalIndicator
  | "spacingmark" | "sm" => some breakSpacingMark
  | "t" => some trailingJamo
  | "v" => some vowelJamo
  | "zwj" => some (.listed "200D")
  | _ => none

/-! ## Words -/

/-- Characters that lengthen what stands before them. -/
def wordExtend : Description := .unions [graphemeExtend, spacingMarks, emojiModifier]

/-- Format characters inside words. -/
def wordFormat : Description := ((formats.less "200B-200D").diff prependedMark).less
    "E0020-E007F"

/-- Hebrew letters. -/
def hebrewLetter : Description := otherLetters.inter <| .listed
    "591-5C7 5D0-5EA 5EF-5F4 FB1D-FB36 FB38-FB3C FB3E FB40-FB41 FB43-FB44 FB46-FB4F"

/-- Katakana and the signs used with it. -/
def wordKatakana : Description := .listed
    "3031-3035 309B-309C 30A0-30FA 30FC-30FF 31F0-31FF 32D0-32FE 3300-3357 FF66-FF9D
     1AFF0-1AFF3 1AFF5-1AFFB 1AFFD-1AFFE 1B000 1B120-1B122 1B155 1B164-1B167"

/-- Digits and the signs that belong to numbers. -/
def wordNumeric : Description := decimalDigits.plus
    "600-605 66B 6DD 890-891 8E2 19DA 110BD 110CD"

/-- Connectors of letters and digits. -/
def extendNumLet : Description := connectors.plus
    "202F"

/-- Punctuation inside words. -/
def midLetter : Description := .listed
    "3A B7 387 55F 5F4 2027 FE13 FE55 FF1A"

/-- Punctuation inside numbers. -/
def midNumber : Description := .listed
    "2C 3B 37E 589 60C-60D 66C 7F8 2044 FE50 FE54 FF0C FF1B"

/-- Punctuation inside both. -/
def midNumLet : Description := .listed
    "2E 2018-2019 2024 FE52 FF07 FF0E"

/-- Spaces between words. -/
def wordSpace : Description := .listed
    "20 1680 2000-2006 2008-200A 205F 3000"

/-- Line ends of one character. -/
def newline : Description := .listed
    "B-C 85 2028-2029"

/-- Letters of words. -/
def wordLetter : Description :=
    ((alphabetic.diff (.unions [ideographic, wordKatakana, wordExtend, hebrewLetter])).plus
    "2C2-2C5 2D2-2D7 2DE-2DF 2E5-2EB 2ED 2EF-2FF 55A-55C 55E 58A 5F3 70F A708-A716
     A720-A721 A789-A78A AB5B").less
    "E01-E30 E32-E33 E40-E46 E81-E82 E84 E86-E8A E8C-EA3 EA5 EA7-EB0 EB2-EB3 EBD EC0-EC4
     EC6 EDC-EDF 1000-102A 103F 1050-1055 105A-105D 1061 1065-1066 106E-1070 1075-1081 108E
     1780-17B3 17D7 17DC 1950-196D 1970-1974 1980-19AB 19B0-19C9 1A20-1A54 1AA7 3041-3096
     309D-309F A9E0-A9E4 A9E6-A9EF A9FA-A9FE AA60-AA76 AA7A AA7E-AAAF AAB1 AAB5-AAB6
     AAB9-AABD AAC0 AAC2 AADB-AADD 11700-1171A 11740-11746 1B001-1B11F 1B132 1B150-1B152"

/-- The characters with a role in the division into words, by the name of the role. -/
def wordBreak? : String → Option Description
  | "aletter" | "le" => some wordLetter
  | "cr" => some (.listed "D")
  | "doublequote" | "dq" => some (.listed "22")
  | "extend" => some wordExtend
  | "extendnumlet" | "ex" => some extendNumLet
  | "format" | "fo" => some wordFormat
  | "hebrewletter" | "hl" => some hebrewLetter
  | "katakana" | "ka" => some wordKatakana
  | "lf" => some (.listed "A")
  | "midletter" | "ml" => some midLetter
  | "midnum" | "mn" => some midNumber
  | "midnumlet" | "mb" => some midNumLet
  | "newline" | "nl" => some newline
  | "numeric" | "nu" => some wordNumeric
  | "regionalindicator" | "ri" => some regionalIndicator
  | "singlequote" | "sq" => some (.listed "27")
  | "wsegspace" => some wordSpace
  | "zwj" => some (.listed "200D")
  | _ => none

/-! ## Sentences -/

/-- Characters that lengthen what stands before them. -/
def sentenceExtend : Description := (Description.union graphemeExtend spacingMarks).plus "200D"

/-- Lowercase characters. -/
def sentenceLower : Description := (lowercase.diff graphemeExtend).less
    "10D0-10FA 10FD-10FF"

/-- Uppercase characters. -/
def sentenceUpper : Description := (Description.union uppercase titlecaseLetters).less
    "1C90-1CBA 1CBD-1CBF"

/-- Letters without case. -/
def sentenceLetter : Description :=
    (alphabetic.diff (.unions [sentenceLower, sentenceUpper, sentenceExtend])).plus
    "5F3"

/-- Digits and the signs that belong to numbers. -/
def sentenceNumeric : Description := wordNumeric.plus
    "66C"

/-- Format characters inside sentences. -/
def sentenceFormat : Description := formats.less
    "600-605 6DD 890-891 8E2 200C-200D 110BD 110CD E0020-E007F"

/-- Signs that end a sentence or an abbreviation. -/
def ambiguousTerminal : Description := .listed
    "2E 2024 FE52 FF0E"

/-- Signs that end a sentence. -/
def plainTerminal : Description := sentenceTerminal.diff ambiguousTerminal

/-- Brackets and quotation marks. -/
def sentenceClose : Description := ((Description.unions [openers, closers, quotationMark]).plus
    "275B-2760 2E00-2E0D 2E1C-2E1D 2E20-2E21 1F676-1F678").less
    "FF02 FF07"

/-- Signs after which a sentence goes on. -/
def sentenceContinue : Description := .listed
    "2C-2D 3A-3B 37E 55D 60C-60D 7F8 1802 1808 2013-2014 3001 FE10-FE11 FE13-FE14 FE31-FE32
     FE50-FE51 FE54-FE55 FE58 FE63 FF0C-FF0D FF1A-FF1B FF64"

/-- Signs that divide paragraphs. -/
def sentenceSeparator : Description := .listed
    "85 2028-2029"

/-- Blanks inside a paragraph. -/
def sentenceSpace : Description := (whiteSpace.diff sentenceSeparator).less "A D"

/-- The characters with a role in the division into sentences, by the name of the role. -/
def sentenceBreak? : String → Option Description
  | "aterm" | "at" => some ambiguousTerminal
  | "close" | "cl" => some sentenceClose
  | "cr" => some (.listed "D")
  | "extend" | "ex" => some sentenceExtend
  | "format" | "fo" => some sentenceFormat
  | "lf" => some (.listed "A")
  | "lower" | "lo" => some sentenceLower
  | "numeric" | "nu" => some sentenceNumeric
  | "oletter" | "le" => some sentenceLetter
  | "scontinue" | "sc" => some sentenceContinue
  | "sep" | "se" => some sentenceSeparator
  | "sp" => some sentenceSpace
  | "sterm" | "st" => some plainTerminal
  | "upper" | "up" => some sentenceUpper
  | _ => none

end Wordweave.Unicode
