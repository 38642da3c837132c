import AutomationConfig.Unicode.Derived

/-! # Characters that quoted text spells out

A reader of quoted text could not see or tell apart some characters: those without a shape of their
own (controls, formats, unassigned and private code points, every blank but the space, fillers) and
marks that merge into the character before them. Which these are goes by version 17 of Unicode. -/

namespace AutomationConfig.Text

/-- Characters that version 17 adds to version 16. -/
def newCharacters : CharSet := .ofTable
  "88F C5C CDC 1ACF-1ADD 1AE0-1AEB 20C1 2B96 A7CE-A7CF A7D2 A7D4 A7F1 FBC3-FBD2 FD90-FD91
  FDC8-FDCE 10940-10959 10EC5-10EC7 10ED0-10ED8 10EFA-10EFB 11B60-11B67 11DB0-11DDB 11DE0-11DE9
  16EA0-16EB8 16EBB-16ED3 16FF2-16FF6 187F8-187FF 18D09-18D1E 18D80-18DF2 1CCFA-1CCFC
  1CEBA-1CED0 1CEE0-1CEF0 1E6C0-1E6DE 1E6E0-1E6F5 1E6FE-1E6FF 1F6D8 1F777-1F77A 1F8D0-1F8D8
  1FA54-1FA57 1FA8A 1FA8E 1FAC8 1FACD 1FAEA 1FAEF 1FBFA 2B73A-2B73F 2CEA2-2CEAD 323B0-33479"

/-- Marks that merge into the character before them, of version 17 alone. -/
def newMarks : CharSet := .ofTable
  "1ACF-1ADD 1AE0-1AEB 10EFA-10EFB 11B60 11B62-11B64 11B66 1E6E3 1E6E6 1E6EE-1E6EF 1E6F5"

/-- Characters without a shape of their own, the space excepted. -/
def shapeless : CharSet :=
  ((Unicode.other ∪ Unicode.separator) \ (newCharacters ∪ .ofRange 0x20 0x20)) ∪
    Unicode.defaultIgnorable

/-- Marks that merge into the character before them. The half-width voicing marks of Katakana are
letters and stand by themselves. -/
def combining : CharSet := (Unicode.graphemeExtend \ Unicode.modifierLetter) ∪ newMarks

/-- Characters that a reader could not see or tell apart. -/
def hidden : CharSet := shapeless ∪ combining

/-- Whether a reader could not see a character or tell it apart. -/
def isHidden (c : Char) : Bool := hidden.contains c.toNat

end AutomationConfig.Text
