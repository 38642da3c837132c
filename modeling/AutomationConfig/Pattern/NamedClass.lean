import AutomationConfig.Unicode.Age
import AutomationConfig.Unicode.Break

/-! # Classes by name

A set in a pattern may name a class of ASCII between colons. A pattern may also name a class of
characters by a general category, a script or a property that a character has or has not, or by a
property and one of its values. These names are compared without regard to case, blanks,
underscores, dashes and an `is` in front. -/

namespace AutomationConfig.Pattern

open Text (CharSet)
open Unicode

/-! ### Classes of ASCII -/

/-- The classes that are written between colons. -/
def asciiClasses : List (String × CharSet) := [
  ("alnum", .ofTable "30-39 41-5A 61-7A"),
  ("alpha", .ofTable "41-5A 61-7A"),
  ("ascii", .ofTable "0-7F"),
  ("blank", .ofTable "9 20"),
  ("cntrl", .ofTable "0-1F 7F"),
  ("digit", .ofTable "30-39"),
  ("graph", .ofTable "21-7E"),
  ("lower", .ofTable "61-7A"),
  ("print", .ofTable "20-7E"),
  ("punct", .ofTable "21-2F 3A-40 5B-60 7B-7E"),
  ("space", .ofTable "9-D 20"),
  ("upper", .ofTable "41-5A"),
  ("word", .ofTable "30-39 41-5A 5F 61-7A"),
  ("xdigit", .ofTable "30-39 41-46 61-66")]

/-- The class of ASCII that has a name. -/
def asciiClass? (name : String) : Option CharSet :=
  (asciiClasses.find? fun entry => entry.1 = name).map (·.2)

/-! ### Classes by properties -/

/-- The general categories and groups of them by their names. -/
def categories : List (List String × CharSet) := [
  (["any"], any),
  (["assigned"], assigned),
  (["ascii"], ascii),
  (["l", "letter"], letter),
  (["lc", "casedletter"], casedLetter),
  (["lu", "uppercaseletter"], uppercaseLetter),
  (["ll", "lowercaseletter"], lowercaseLetter),
  (["lt", "titlecaseletter"], titlecaseLetter),
  (["lm", "modifierletter"], modifierLetter),
  (["lo", "otherletter"], otherLetter),
  (["m", "mark", "combiningmark"], mark),
  (["mn", "nonspacingmark"], nonspacingMark),
  (["mc", "spacingmark"], spacingMark),
  (["me", "enclosingmark"], enclosingMark),
  (["n", "number"], number),
  (["nd", "decimalnumber", "digit"], decimalNumber),
  (["nl", "letternumber"], letterNumber),
  (["no", "othernumber"], otherNumber),
  (["p", "punctuation", "punct"], punctuation),
  (["pc", "connectorpunctuation"], connectorPunctuation),
  (["pd", "dashpunctuation"], dashPunctuation),
  (["ps", "openpunctuation"], openPunctuation),
  (["pe", "closepunctuation"], closePunctuation),
  (["pi", "initialpunctuation"], initialPunctuation),
  (["pf", "finalpunctuation"], finalPunctuation),
  (["po", "otherpunctuation"], otherPunctuation),
  (["s", "symbol"], symbol),
  (["sm", "mathsymbol"], mathSymbol),
  (["sc", "currencysymbol"], currencySymbol),
  (["sk", "modifiersymbol"], modifierSymbol),
  (["so", "othersymbol"], otherSymbol),
  (["z", "separator"], separator),
  (["zs", "spaceseparator"], spaceSeparator),
  (["zl", "lineseparator"], lineSeparator),
  (["zp", "paragraphseparator"], paragraphSeparator),
  (["c", "other"], other),
  (["cc", "control", "cntrl"], control),
  (["cf", "format"], format),
  (["cn", "unassigned"], unassigned),
  (["co", "privateuse"], privateUse)]

/-- The properties that a character has or has not by their names. -/
def binaryProperties : List (List String × CharSet) := [
  (["asciihexdigit", "ahex"], asciiHexDigit),
  (["alphabetic", "alpha"], alphabetic),
  (["bidicontrol", "bidic"], bidiControl),
  (["bidimirrored", "bidim"], bidiMirrored),
  (["caseignorable", "ci"], caseIgnorable),
  (["cased"], cased),
  (["changeswhencasefolded", "cwcf"], changesWhenCasefolded),
  (["changeswhencasemapped", "cwcm"], changesWhenCasemapped),
  (["changeswhenlowercased", "cwl"], changesWhenLowercased),
  (["changeswhentitlecased", "cwt"], changesWhenTitlecased),
  (["changeswhenuppercased", "cwu"], changesWhenUppercased),
  (["dash"], dash),
  (["defaultignorablecodepoint", "di"], defaultIgnorable),
  (["deprecated", "dep"], deprecated),
  (["diacritic", "dia"], diacritic),
  (["emoji"], emoji),
  (["emojicomponent", "ecomp"], emojiComponent),
  (["emojimodifier", "emod"], emojiModifier),
  (["emojimodifierbase", "ebase"], emojiModifierBase),
  (["emojipresentation", "epres"], emojiPresentation),
  (["extendedpictographic", "extpict"], extendedPictographic),
  (["extender", "ext"], extender),
  (["graphemebase", "grbase"], graphemeBase),
  (["graphemeextend", "grext"], graphemeExtend),
  (["graphemelink", "grlink"], graphemeLink),
  (["hexdigit", "hex"], hexDigit),
  (["hyphen"], hyphen),
  (["idsbinaryoperator", "idsb"], idsBinaryOperator),
  (["idstrinaryoperator", "idst"], idsTrinaryOperator),
  (["idsunaryoperator", "idsu"], idsUnaryOperator),
  (["idcompatmathcontinue"], idCompatMathContinue),
  (["idcompatmathstart"], idCompatMathStart),
  (["idcontinue", "idc"], idContinue),
  (["idstart", "ids"], idStart),
  (["ideographic", "ideo"], ideographic),
  (["joincontrol", "joinc"], joinControl),
  (["logicalorderexception", "loe"], logicalOrderException),
  (["lowercase", "lower"], lowercase),
  (["math"], math),
  (["modifiercombiningmark", "mcm"], modifierCombiningMark),
  (["noncharactercodepoint", "nchar"], noncharacter),
  (["otheralphabetic", "oalpha"], otherAlphabetic),
  (["otherdefaultignorablecodepoint", "odi"], otherDefaultIgnorable),
  (["othergraphemeextend", "ogrext"], otherGraphemeExtend),
  (["otheridcontinue", "oidc"], otherIdContinue),
  (["otheridstart", "oids"], otherIdStart),
  (["otherlowercase", "olower"], otherLowercase),
  (["othermath", "omath"], otherMath),
  (["otheruppercase", "oupper"], otherUppercase),
  (["patternsyntax", "patsyn"], patternSyntax),
  (["patternwhitespace", "patws"], patternWhiteSpace),
  (["prependedconcatenationmark", "pcm"], prependedConcatenationMark),
  (["quotationmark", "qmark"], quotationMark),
  (["radical"], radical),
  (["regionalindicator", "ri"], regionalIndicator),
  (["sentenceterminal", "sterm"], sentenceTerminal),
  (["softdotted", "sd"], softDotted),
  (["terminalpunctuation", "term"], terminalPunctuation),
  (["unifiedideograph", "uideo"], unifiedIdeograph),
  (["uppercase", "upper"], uppercase),
  (["variationselector", "vs"], variationSelector),
  (["whitespace", "wspace", "space"], whiteSpace),
  (["xidcontinue", "xidc"], xidContinue),
  (["xidstart", "xids"], xidStart)]

/-- The set that has a name in a list. -/
def named? (name : String) (sets : List (List String × CharSet)) : Option CharSet :=
  (sets.find? fun entry => entry.1.contains name).map (·.2)

/-- Whether a character counts when names of properties are compared. -/
def countsInName (c : Char) : Bool := c.toNat < 128 && c != ' ' && c != '_' && c != '-'

/-- A name as it is compared: in lower case and without an `is` in front. The one name of a property
that starts with these letters is kept whole. -/
def comparedName (name : String) : String :=
  let reduce (cs : List Char) := String.ofList ((cs.filter countsInName).map Char.toLower)
  match name.toList with
  | i :: s :: rest =>
    if i.toLower = 'i' && s.toLower = 's' then
      let reduced := reduce rest
      if reduced = "c" then "isc" else reduced
    else reduce (i :: s :: rest)
  | cs => reduce cs

/-- The characters of the class that a name stands for by itself. -/
def classNamed? (name : String) : Option CharSet :=
  let name := comparedName name
  (named? name binaryProperties).or
    ((named? name categories).or ((Script.find? name).map (·.set)))

/-- The characters of the class that a value of a property stands for. -/
def classValued? (property value : String) : Option CharSet :=
  let value := comparedName value
  match comparedName property with
  | "gc" | "generalcategory" => named? value categories
  | "sc" | "script" => (Script.find? value).map (·.set)
  | "scx" | "scriptextensions" => (Script.find? value).map (·.extendedSet)
  | "age" => upToVersion? value
  | "gcb" | "graphemeclusterbreak" => named? value graphemeBreaks
  | "wb" | "wordbreak" => named? value wordBreaks
  | "sb" | "sentencebreak" => named? value sentenceBreaks
  | _ => none

end AutomationConfig.Pattern
