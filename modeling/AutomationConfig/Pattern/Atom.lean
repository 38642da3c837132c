import AutomationConfig.Pattern.Escape
import AutomationConfig.Pattern.Syntax
import AutomationConfig.Text.Blank
import AutomationConfig.Text.Hex

/-! # Reading the smallest parts of a pattern

A reader takes the text that is left and gives what it read together with what is then left. Where
the flag for it is set, blanks and comments between the signs of a pattern do not count; a comment
runs from a number sign to the end of its line. -/

namespace AutomationConfig.Pattern

/-! ### Blanks and comments -/

/-- The text without the blanks and comments it starts with; the text may start inside a comment. -/
def dropIgnored : (inComment : Bool) → List Char → List Char
  | _, [] => []
  | true, c :: cs => dropIgnored (c != '\n') cs
  | false, c :: cs =>
    if Text.isBlank c then dropIgnored false cs
    else if c = '#' then dropIgnored true cs
    else c :: cs

/-- The text from its next sign on. -/
def skip (ignoring : Bool) (cs : List Char) : List Char :=
  if ignoring then dropIgnored false cs else cs

theorem length_dropIgnored_le : ∀ (inComment : Bool) (cs : List Char),
    (dropIgnored inComment cs).length ≤ cs.length
  | _, [] => by simp [dropIgnored]
  | true, c :: cs => by
    simpa [dropIgnored] using Nat.le_succ_of_le (length_dropIgnored_le (c != '\n') cs)
  | false, c :: cs => by
    unfold dropIgnored
    split
    · exact Nat.le_succ_of_le (length_dropIgnored_le false cs)
    · split
      · exact Nat.le_succ_of_le (length_dropIgnored_le true cs)
      · exact Nat.le_refl _

theorem length_skip_le (ignoring : Bool) (cs : List Char) :
    (skip ignoring cs).length ≤ cs.length := by
  unfold skip
  split
  · exact length_dropIgnored_le false cs
  · exact Nat.le_refl _

@[simp] theorem skip_false (cs : List Char) : skip false cs = cs := rfl

/-- The signs up to a closing brace. -/
def readBraced (ignoring : Bool) (cs : List Char) : Option (List Char × List Char) :=
  match _h : skip ignoring cs with
  | [] => none
  | c :: rest =>
    if c = '\x7d' then some ([], rest)
    else do
      let (more, rest) ← readBraced ignoring rest
      return (c :: more, rest)
termination_by cs.length
decreasing_by
  have := length_skip_le ignoring cs
  simp only [_h, List.length_cons] at this
  omega

/-! ### Characters by number -/

/-- The value of exactly `count` digits of base sixteen. -/
def readHexDigits (ignoring : Bool) : (count value : Nat) → List Char → Option (Nat × List Char)
  | 0, value, cs => some (value, cs)
  | _ + 1, _, [] => none
  | count + 1, value, c :: cs => do
    let digit ← Text.hexValue? c
    readHexDigits ignoring count (value * 16 + digit) (skip ignoring cs)

/-- The value of digits of base sixteen. -/
def hexNumber? : (value : Nat) → List Char → Option Nat
  | value, [] => some value
  | value, c :: cs => do hexNumber? (value * 16 + (← Text.hexValue? c)) cs

/-- A character by its number: so many digits, or any number of them between braces. Two digits
stand for a byte. -/
def readNumbered (ignoring : Bool) (count : Nat) (cs : List Char) : Option (Expr × List Char) :=
  match skip ignoring cs with
  | [] => none
  | c :: rest =>
    if c = '\x7b' then do
      let (digits, rest) ← readBraced ignoring rest
      if digits.isEmpty then none
      else
        let char ← Text.charOf? (← hexNumber? 0 digits)
        return (.literal ⟨char, false⟩, rest)
    else do
      let (n, rest) ← readHexDigits ignoring count 0 (c :: rest)
      let char ← Text.charOf? n
      return (.literal ⟨char, count == 2⟩, rest)

/-! ### Classes -/

/-- The text before and after the first place where a mark stands in it. -/
def splitAtMark? (mark : List Char) : List Char → Option (List Char × List Char)
  | [] => none
  | c :: cs =>
    if mark.isPrefixOf (c :: cs) then some ([], (c :: cs).drop mark.length)
    else (splitAtMark? mark cs).map fun parts => (c :: parts.1, parts.2)

/-- The class named between braces. A value may stand behind an exclamation mark and an equals sign
too, which mean no more than an equals sign. -/
def propertyOf (text : List Char) : PropertyClass :=
  match (splitAtMark? ['!', '='] text).or
      ((splitAtMark? [':'] text).or (splitAtMark? ['='] text)) with
  | some (property, value) => .valued (String.ofList property) (String.ofList value)
  | none => .named (String.ofList text)

/-- A class by a property: a name of one letter, or a name between braces. -/
def readProperty (ignoring negated : Bool) (cs : List Char) : Option (Expr × List Char) :=
  match skip ignoring cs with
  | [] => none
  | c :: rest =>
    if c = '\\' then none
    else if c = '\x7b' then do
      let (text, rest) ← readBraced ignoring rest
      return (.property (propertyOf text) negated, rest)
    else some (.property (.named (String.singleton c)) negated, skip ignoring rest)

/-- The common class of a letter, and whether the letter stands for all other characters. -/
def commonClass? : Char → Option (CommonClass × Bool)
  | 'd' => some (.digit, false)
  | 'D' => some (.digit, true)
  | 's' => some (.blank, false)
  | 'S' => some (.blank, true)
  | 'w' => some (.word, false)
  | 'W' => some (.word, true)
  | _ => none

/-! ### Escapes -/

/-- The control character of a letter. -/
def control? : Char → Option Char
  | 'a' => some '\x07'
  | 'f' => some '\x0c'
  | 't' => some '\t'
  | 'n' => some '\n'
  | 'r' => some '\r'
  | 'v' => some '\x0b'
  | _ => none

/-- The place of a sign. -/
def place? : Char → Option Place
  | 'A' => some .textStart
  | 'z' => some .textEnd
  | 'B' => some .notWordBoundary
  | '<' => some .wordStart
  | '>' => some .wordEnd
  | _ => none

/-- The kind of word boundary of a name. -/
def boundary? (name : List Char) : Option Place :=
  if name = "start".toList then some .wordStart
  else if name = "end".toList then some .wordEnd
  else if name = "start-half".toList then some .wordStartHalf
  else if name = "end-half".toList then some .wordEndHalf
  else none

/-- A word boundary, of a kind that may be named between braces. Braces around something that is
not a name are left to follow. -/
def readBoundary (ignoring : Bool) (cs : List Char) : Option (Expr × List Char) :=
  match cs with
  | [] => some (.place .wordBoundary, [])
  | c :: rest =>
    if c = '\x7b' then
      match skip ignoring rest with
      | [] => none
      | d :: _ =>
        if d.isAlpha || d == '-' then do
          let (name, rest) ← readBraced ignoring rest
          return (.place (← boundary? name), rest)
        else some (.place .wordBoundary, c :: rest)
    else some (.place .wordBoundary, c :: rest)

/-- Whether a character that has no meaning in patterns may stand behind a backslash for itself. -/
def isPlainEscape (c : Char) : Bool :=
  c.toNat < 128 && !c.isAlphanum && c != '<' && c != '>'

/-- What an escape stands for, after its backslash. -/
def readEscape (ignoring : Bool) : List Char → Option (Expr × List Char)
  | [] => none
  | c :: cs =>
    if isMeta c || isPlainEscape c then some (.literal ⟨c, false⟩, cs)
    else if c = 'x' then readNumbered ignoring 2 cs
    else if c = 'u' then readNumbered ignoring 4 cs
    else if c = 'U' then readNumbered ignoring 8 cs
    else if c = 'p' || c = 'P' then readProperty ignoring (c == 'P') cs
    else if c = 'b' then readBoundary ignoring cs
    else
      match commonClass? c with
      | some (kind, negated) => some (.common kind negated, cs)
      | none =>
        match control? c with
        | some d => some (.literal ⟨d, false⟩, cs)
        | none => (place? c).map fun kind => (.place kind, cs)

end AutomationConfig.Pattern
