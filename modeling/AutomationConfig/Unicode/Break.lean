import AutomationConfig.Unicode.Derived
import AutomationConfig.Unicode.Script

/-! # Breaks

Three classifications of characters say where a text may be broken between graphemes, words and
sentences. The classes follow from other properties, as of version 16 of Unicode. Each has a short
and a long name; the class of all remaining characters is left out. -/

namespace AutomationConfig.Unicode

open Text (CharSet)

/-- The characters of the script with this name. -/
def charactersOf (script : String) : CharSet := ((Script.find? script).map (·.set)).getD .empty

/-- The joiner that makes one emoji of two. -/
def zeroWidthJoiner : CharSet := .ofRange 0x200D 0x200D

/-! ### Graphemes -/

/-- Characters that continue a grapheme. -/
def graphemeContinuation : CharSet := graphemeExtend ∪ emojiModifier

/-- Characters that stand for a break of their own. -/
def graphemeControl : CharSet :=
  (lineSeparator ∪ paragraphSeparator ∪ control ∪ format ∪ (unassigned ∩ defaultIgnorable)) \
    (.ofTable "A D 200C-200D" ∪ prependedConcatenationMark ∪ graphemeContinuation)

/-- Characters that the next grapheme starts with. -/
def graphemePrepend : CharSet :=
  prependedConcatenationMark ∪
    .ofTable "D4E 111C2-111C3 113D1 1193F 11941 11A3A 11A84-11A89 11D46 11F02"

/-- Marks with a place of their own that continue a grapheme. -/
def graphemeSpacingMark : CharSet :=
  (spacingMark ∪ .ofTable "E33 EB3") \
    (graphemeContinuation ∪ .ofTable "102B-102C 1038 1062-1064 1067-106D 1083 1087-108C 108F
      109A-109C 1A61 1A63-1A64 AA7B AA7D 11720-11721")

/-- Syllables of Hangul without a final consonant. -/
def hangulOpenSyllable : CharSet := .ofCodes ((List.range 399).map fun k => 0xAC00 + 28 * k)

/-- The classes for breaks between graphemes. -/
def graphemeBreaks : List (List String × CharSet) := [
  (["cn", "control"], graphemeControl),
  (["cr"], .ofTable "D"),
  (["lf"], .ofTable "A"),
  (["ex", "extend"], graphemeContinuation),
  (["pp", "prepend"], graphemePrepend),
  (["sm", "spacingmark"], graphemeSpacingMark),
  (["ri", "regionalindicator"], regionalIndicator),
  (["l"], .ofTable "1100-115F A960-A97C"),
  (["v"], .ofTable "1160-11A7 D7B0-D7C6 16D63 16D67-16D6A"),
  (["t"], .ofTable "11A8-11FF D7CB-D7FB"),
  (["lv"], hangulOpenSyllable),
  (["lvt"], .ofRange 0xAC00 0xD7A3 \ hangulOpenSyllable),
  (["zwj"], zeroWidthJoiner)]

/-! ### Words -/

/-- Characters that numbers are made of. -/
def numeric : CharSet :=
  decimalNumber ∪ .ofTable "66B-66C" ∪ (prependedConcatenationMark \ .ofTable "70F")

/-- Characters that belong to the word before them. -/
def wordExtend : CharSet := graphemeExtend ∪ spacingMark ∪ emojiModifier

/-- Characters of Katakana words. -/
def katakanaWord : CharSet :=
  charactersOf "kana" ∪ .ofTable "3031-3035 309B-309C 30A0 30FC FF70"

/-- Letters of Hebrew. -/
def hebrewLetter : CharSet := charactersOf "hebr" ∩ otherLetter

/-- Letters of scripts that words are not separated in. -/
def unseparatedLetter : CharSet := .ofTable
  "E01-E30 E32-E33 E40-E46 E81-E82 E84 E86-E8A E8C-EA3 EA5 EA7-EB0 EB2-EB3 EBD EC0-EC4 EC6
  EDC-EDF 1000-102A 103F 1050-1055 105A-105D 1061 1065-1066 106E-1070 1075-1081 108E 1780-17B3
  17D7 17DC 1950-196D 1970-1974 1980-19AB 19B0-19C9 1A20-1A54 1AA7 A9E0-A9E4 A9E6-A9EF A9FA-A9FE
  AA60-AA76 AA7A AA7E-AAAF AAB1 AAB5-AAB6 AAB9-AABD AAC0 AAC2 AADB-AADD 11700-1171A 11740-11746"

/-- Signs besides alphabetic characters that words hold like letters. -/
def letterLikeSign : CharSet := .ofTable
  "B8 2C2-2C5 2D2-2D7 2DE-2DF 2E5-2EB 2ED 2EF-2FF 55A-55C 55E 58A 5F3 70F A708-A716 A720-A721
  A789-A78A AB5B"

/-- Letters of words. -/
def wordLetter : CharSet :=
  (alphabetic ∪ letterLikeSign) \
    (ideographic ∪ katakanaWord ∪ unseparatedLetter ∪ charactersOf "hira" ∪ wordExtend ∪
      hebrewLetter)

/-- The classes for breaks between words. -/
def wordBreaks : List (List String × CharSet) := [
  (["cr"], .ofTable "D"),
  (["lf"], .ofTable "A"),
  (["nl", "newline"], .ofTable "B-C 85 2028-2029"),
  (["extend"], wordExtend),
  (["zwj"], zeroWidthJoiner),
  (["fo", "format"],
    format \ (.ofTable "200B-200D" ∪ wordExtend ∪ prependedConcatenationMark)),
  (["ka", "katakana"], katakanaWord),
  (["hl", "hebrewletter"], hebrewLetter),
  (["le", "aletter"], wordLetter),
  (["sq", "singlequote"], .ofTable "27"),
  (["dq", "doublequote"], .ofTable "22"),
  (["mb", "midnumlet"], .ofTable "2E 2018-2019 2024 FE52 FF07 FF0E"),
  (["ml", "midletter"], .ofTable "3A B7 387 55F 5F4 2027 FE13 FE55 FF1A"),
  (["mn", "midnum"],
    .ofTable "2C 3B 37E 589 60C-60D 66C 7F8 2044 FE10 FE14 FE50 FE54 FF0C FF1B"),
  (["nu", "numeric"], numeric \ .ofTable "66C"),
  (["ex", "extendnumlet"], connectorPunctuation ∪ .ofTable "202F"),
  (["ri", "regionalindicator"], regionalIndicator),
  (["wsegspace"], spaceSeparator \ .ofTable "A0 2007 202F")]

/-! ### Sentences -/

/-- Characters that belong to what is before them in a sentence. -/
def sentenceExtend : CharSet := graphemeExtend ∪ spacingMark ∪ zeroWidthJoiner

/-- Full stops, which may end a sentence. -/
def fullStop : CharSet := .ofTable "2E 2024 FE52 FF0E"

/-- Small letters of a sentence. -/
def sentenceLower : CharSet := lowercase \ (graphemeExtend ∪ .ofTable "10D0-10FA 10FD-10FF")

/-- Capital letters of a sentence. -/
def sentenceUpper : CharSet := (titlecaseLetter ∪ uppercase) \ .ofTable "1C90-1CBA 1CBD-1CBF"

/-- The classes for breaks between sentences. -/
def sentenceBreaks : List (List String × CharSet) := [
  (["cr"], .ofTable "D"),
  (["lf"], .ofTable "A"),
  (["ex", "extend"], sentenceExtend),
  (["se", "sep"], .ofTable "85 2028-2029"),
  (["fo", "format"],
    format \ (.ofTable "200C-200D" ∪ sentenceExtend ∪ prependedConcatenationMark)),
  (["sp"], whiteSpace \ .ofTable "A D 85 2028-2029"),
  (["lo", "lower"], sentenceLower),
  (["up", "upper"], sentenceUpper),
  (["le", "oletter"],
    (alphabetic ∪ .ofTable "5F3 70F") \ (sentenceLower ∪ sentenceUpper ∪ sentenceExtend)),
  (["nu", "numeric"], numeric),
  (["at", "aterm"], fullStop),
  (["sc", "scontinue"],
    .ofTable "2C-2D 3A-3B 37E 55D 60C-60D 7F8 1802 1808 2013-2014 3001 FE10-FE11 FE13-FE14
      FE31-FE32 FE50-FE51 FE54-FE55 FE58 FE63 FF0C-FF0D FF1A-FF1B FF64"),
  (["st", "sterm"], sentenceTerminal \ fullStop),
  (["cl", "close"],
    (openPunctuation ∪ closePunctuation ∪ initialPunctuation ∪ finalPunctuation ∪
      .ofTable "22 27 275B-2760 2E00-2E01 2E06-2E08 2E0B 1F676-1F678") \
      (fullStop ∪ sentenceTerminal))]

end AutomationConfig.Unicode
