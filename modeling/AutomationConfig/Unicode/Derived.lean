import AutomationConfig.Unicode.Category
import AutomationConfig.Unicode.Listed

/-! # Derived properties

Properties of characters that follow from categories and listed properties. Each definition is the
rule that the standard derives the property by. -/

namespace AutomationConfig.Unicode

open Text (CharSet)

/-- The characters of ASCII. -/
def ascii : CharSet := .ofRange 0 0x7F

/-- All code points. -/
def any : CharSet := .ofRange 0 0x10FFFF

/-- Lower-case characters. -/
def lowercase : CharSet := lowercaseLetter ∪ otherLowercase

/-- Upper-case characters. -/
def uppercase : CharSet := uppercaseLetter ∪ otherUppercase

/-- Characters that have case. -/
def cased : CharSet := lowercase ∪ uppercase ∪ titlecaseLetter

/-- Alphabetic characters. -/
def alphabetic : CharSet := letter ∪ letterNumber ∪ otherAlphabetic

/-- Mathematical characters. -/
def math : CharSet := mathSymbol ∪ otherMath

/-- Characters that words are made of. -/
def wordCharacter : CharSet :=
  alphabetic ∪ mark ∪ decimalNumber ∪ connectorPunctuation ∪ joinControl

/-! ### Case -/

/-- Punctuation inside words, which does not count where the case of a word is looked at. -/
def wordPunctuation : CharSet := .ofTable
  "27 2E 3A B7 387 55F 5F4 2018-2019 2024 2027 FE13 FE52 FE55 FF07 FF0E FF1A"

/-- Characters that do not count where the case of their neighbours is looked at. -/
def caseIgnorable : CharSet :=
  nonspacingMark ∪ enclosingMark ∪ format ∪ modifierLetter ∪ modifierSymbol ∪ wordPunctuation

/-- Characters that change in lower, upper or title case. -/
def changesWhenCasemapped : CharSet :=
  changesWhenLowercased ∪ changesWhenUppercased ∪ changesWhenTitlecased

/-! ### Graphemes -/

/-- Characters that belong to the one before them. -/
def graphemeExtend : CharSet := nonspacingMark ∪ enclosingMark ∪ otherGraphemeExtend

/-- Characters that a grapheme may start with. -/
def graphemeBase : CharSet :=
  (other ∪ lineSeparator ∪ paragraphSeparator ∪ graphemeExtend).complement

/-- Signs that take the vowel from a consonant. -/
def graphemeLink : CharSet := .ofTable
  "94D 9CD A4D ACD B4D BCD C4D CCD D3B-D3C D4D DCA E3A EBA F84 1039-103A 1714-1715 1734 17D2
  1A60 1B44 1BAA-1BAB 1BF2-1BF3 2D7F A806 A82C A8C4 A953 A9C0 AAF6 ABED 10A3F 11046 11070 1107F
  110B9 11133-11134 111C0 11235 112EA 1134D 113CE-113D0 11442 114C2 115BF 1163F 116B6 1172B
  11839 1193D-1193E 119E0 11A34 11A47 11A99 11C3F 11D44-11D45 11D97 11F41-11F42 1612F"

/-- Characters that are not shown unless a program knows them. -/
def defaultIgnorable : CharSet :=
  (otherDefaultIgnorable ∪ format ∪ variationSelector) \
    (whiteSpace ∪ .ofTable "FFF9-FFFB 13430-13440" ∪ prependedConcatenationMark)

/-! ### Identifiers -/

/-- Characters that an identifier may start with. -/
def idStart : CharSet :=
  (letter ∪ letterNumber ∪ otherIdStart) \ (patternSyntax ∪ patternWhiteSpace)

/-- Characters that an identifier may hold. -/
def idContinue : CharSet :=
  (idStart ∪ nonspacingMark ∪ spacingMark ∪ decimalNumber ∪ connectorPunctuation ∪
    otherIdContinue) \ (patternSyntax ∪ patternWhiteSpace)

/-- Characters that an identifier may hold, but not once it is normalized. -/
def unstableIdContinue : CharSet := .ofTable
  "37A 309B-309C FC5E-FC63 FDFA-FDFB FE70-FE7E/2"

/-- Characters that an identifier may start with, also once it is normalized. -/
def xidStart : CharSet := idStart \ (unstableIdContinue ∪ .ofTable "E33 EB3 FF9E-FF9F")

/-- Characters that an identifier may hold, also once it is normalized. -/
def xidContinue : CharSet := idContinue \ unstableIdContinue

end AutomationConfig.Unicode
