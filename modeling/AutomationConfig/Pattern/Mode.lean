import AutomationConfig.Pattern.NamedClass
import AutomationConfig.Pattern.Syntax
import AutomationConfig.Unicode.CaseFolding

/-! # Sets of characters under flags

What characters a class or a set stands for depends on the flags that hold where it is written.
Where case is ignored, a set holds every case of its characters, and it is turned round only after
that. Without the Unicode flag a set is a set of characters of ASCII, and as it must not match a
part of a character, it cannot be turned round. -/

namespace AutomationConfig.Pattern

open Text (CharSet)

/-- The flags that hold at a place of a pattern. -/
structure Mode where
  ignoreCase : Bool := false
  multiLine : Bool := false
  dotMatchesNewLine : Bool := false
  swapGreed : Bool := false
  unicode : Bool := true
  crlf : Bool := false
deriving DecidableEq, Repr

namespace Mode

/-- The flags after some changes. -/
def change (m : Mode) (changes : List FlagChange) : Mode where
  ignoreCase := (changeOf .caseInsensitive changes).getD m.ignoreCase
  multiLine := (changeOf .multiLine changes).getD m.multiLine
  dotMatchesNewLine := (changeOf .dotMatchesNewLine changes).getD m.dotMatchesNewLine
  swapGreed := (changeOf .swapGreed changes).getD m.swapGreed
  unicode := (changeOf .unicode changes).getD m.unicode
  crlf := (changeOf .crlf changes).getD m.crlf

/-- The set with both cases of each letter of ASCII in it. -/
def closeUnderAsciiCase (s : CharSet) : CharSet :=
  let upper := s ∩ .ofRange 0x41 0x5A
  let lower := s ∩ .ofRange 0x61 0x7A
  s ∪ ⟨upper.ranges.map fun r => (r.1 + 0x20, r.2 + 0x20)⟩ ∪
    ⟨lower.ranges.map fun r => (r.1 - 0x20, r.2 - 0x20)⟩

/-- The set with every case of its characters, if case is ignored. -/
def closeUnderCase (m : Mode) (s : CharSet) : CharSet :=
  if m.ignoreCase then
    if m.unicode then Unicode.closeUnderFolding s else closeUnderAsciiCase s
  else s

/-- The set, turned round if it is negated and may be. -/
def turn? (m : Mode) (negated : Bool) (s : CharSet) : Option CharSet :=
  if negated then if m.unicode then some s.complement else none else some s

/-- A character may be a member of a set. -/
def allowsMember (m : Mode) (l : Literal) : Bool := m.unicode || l.char.toNat < 0x80

/-- The characters of a common class. -/
def commonClass (m : Mode) (kind : CommonClass) : CharSet :=
  if m.unicode then
    match kind with
    | .digit => Unicode.decimalNumber
    | .blank => Unicode.whiteSpace
    | .word => Unicode.wordCharacter
  else
    match kind with
    | .digit => .ofTable "30-39"
    | .blank => .ofTable "9-D 20"
    | .word => .ofTable "30-39 41-5A 5F 61-7A"

/-- The characters of a common class or of all others. Case makes no difference to it. -/
def common? (m : Mode) (kind : CommonClass) (negated : Bool) : Option CharSet :=
  m.turn? negated (m.commonClass kind)

/-- The characters of a class by a property or of all others. -/
def property? (m : Mode) (kind : PropertyClass) (negated : Bool) : Option CharSet := do
  let s ←
    match kind with
    | .named name => classNamed? name
    | .valued property value => classValued? property value
  if m.unicode then m.turn? negated (m.closeUnderCase s) else none

/-- The characters that any character stands for, if it may be written. -/
def any? (m : Mode) : Option CharSet :=
  if !m.unicode then none
  else if m.dotMatchesNewLine then some Unicode.any
  else if m.crlf then some (.complement (.ofCodes [0x0A, 0x0D]))
  else some (.complement (.ofCodes [0x0A]))

end Mode

/-- The operation on sets of characters. -/
def SetOperation.apply (s t : CharSet) : SetOperation → CharSet
  | .intersection => s ∩ t
  | .difference => s \ t
  | .symmetricDifference => s.symmDiff t

mutual

/-- The characters that a member of a set stands for, if it may be written. -/
def SetItem.chars? (m : Mode) : SetItem → Option CharSet
  | .literal l => if m.allowsMember l then some (.ofRange l.char.toNat l.char.toNat) else none
  | .range low high =>
    if m.allowsMember low && m.allowsMember high then
      some (.ofRange low.char.toNat high.char.toNat)
    else none
  | .ascii name negated => do m.turn? negated (m.closeUnderCase (← asciiClass? name))
  | .common kind negated => m.common? kind negated
  | .property kind negated => m.property? kind negated
  | .nested negated set => do m.turn? negated (m.closeUnderCase (← set.chars? m))

/-- The characters of a set, if it may be written. -/
def SetExpr.chars? (m : Mode) : SetExpr → Option CharSet
  | .union items => do return .ofRanges (← itemsRanges? m items)
  | .combined operation left right => do
    let left ← left.chars? m
    let right ← right.chars? m
    return operation.apply (m.closeUnderCase left) (m.closeUnderCase right)

/-- The ranges of characters of several members of a set, if they may be written. -/
def itemsRanges? (m : Mode) : List SetItem → Option (List (Nat × Nat))
  | [] => some []
  | item :: rest => do return (← item.chars? m).ranges ++ (← itemsRanges? m rest)

end

/-- The characters of a set between brackets, if it may be written. -/
def Mode.set? (m : Mode) (negated : Bool) (set : SetExpr) : Option CharSet := do
  m.turn? negated (m.closeUnderCase (← set.chars? m))

end AutomationConfig.Pattern
