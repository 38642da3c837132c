import AutomationConfig.Unicode.Derived

/-! # Letters, digits and word characters

The characters that names, versions and words are made of. They cover all of Unicode: a digit is any
decimal digit, and a word character is a letter, a decimal digit, a mark, a connector or a joiner.
Letters and numbers in names go by version 17 of Unicode, digits and word characters by version
16. -/

namespace AutomationConfig.Text

/-- Alphabetic characters that version 17 adds to version 16. -/
def newLetters : CharSet := .ofTable
  "88F C5C CDC A7CE-A7CF A7D2 A7D4 A7F1 10940-10959 10EC5-10EC7 10EFA-10EFB 11B60-11B67
  11DB0-11DDB 16EA0-16EB8 16EBB-16ED3 16FF2-16FF6 187F8-187FF 18D09-18D1E 18D80-18DF2
  1E6C0-1E6DE 1E6E0-1E6F5 1E6FE-1E6FF 2B73A-2B73F 2CEA2-2CEAD 323B0-33479"

/-- Numbers that version 17 adds to version 16. -/
def newNumbers : CharSet := .ofTable "11DE0-11DE9 16FF4-16FF6"

/-- Alphabetic characters. -/
def letters : CharSet := Unicode.alphabetic ∪ newLetters

/-- Alphabetic characters and numbers of any kind. -/
def lettersAndNumbers : CharSet := letters ∪ Unicode.number ∪ newNumbers

/-- Whether a character is alphabetic. -/
def isLetter (c : Char) : Bool :=
  if c.toNat < 0x80 then c.isAlpha else letters.contains c.toNat

/-- Whether a character is a letter or a number of some kind. -/
def isLetterOrNumber (c : Char) : Bool :=
  if c.toNat < 0x80 then c.isAlphanum else lettersAndNumbers.contains c.toNat

/-- Whether a character is a decimal digit of some script. -/
def isDecimalDigit (c : Char) : Bool :=
  if c.toNat < 0x80 then c.isDigit else Unicode.decimalNumber.contains c.toNat

/-- Whether a character belongs to a word, so that no word ends before it. -/
def isWordChar (c : Char) : Bool :=
  if c.toNat < 0x80 then c.isAlphanum || c == '_' else Unicode.wordCharacter.contains c.toNat

end AutomationConfig.Text
