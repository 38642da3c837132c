import AutomationConfig.Pattern.Matcher
import AutomationConfig.Pattern.Mode

/-! # What patterns mean

Under its flags a pattern stands for a matcher, if all its parts may be written. Flags that are
changed in a pattern hold up to the end of their group, and groups that capture are numbered in the
order in which they start. -/

namespace AutomationConfig.Pattern

namespace Mode

/-- What a character stands for, if it may be written: without the Unicode flag a byte must be one
of ASCII. -/
def literal? (m : Mode) (l : Literal) : Option Matcher :=
  if !m.unicode && l.isByte && 0x80 ≤ l.char.toNat then none
  else some (.ofSet (!m.unicode) (m.closeUnderCase (.ofRange l.char.toNat l.char.toNat)))

/-- What a place stands for. -/
def anchor (m : Mode) : Place → Anchor
  | .lineStart => if m.multiLine then .lineStart m.crlf else .textStart
  | .lineEnd => if m.multiLine then .lineEnd m.crlf else .textEnd
  | .textStart => .textStart
  | .textEnd => .textEnd
  | .wordBoundary => .wordBoundary m.unicode
  | .notWordBoundary => .notWordBoundary m.unicode
  | .wordStart => .wordStart m.unicode
  | .wordEnd => .wordEnd m.unicode
  | .wordStartHalf => .wordStartHalf m.unicode
  | .wordEndHalf => .wordEndHalf m.unicode

end Mode

/-- What holds at a place of a pattern. -/
structure Scope where
  mode : Mode := {}
  /-- How many groups that capture have started. -/
  groups : Nat := 0
deriving DecidableEq, Repr

/-- The scope inside a group that changes flags. -/
def Scope.change (s : Scope) (changes : List FlagChange) : Scope :=
  { s with mode := s.mode.change changes }

mutual

/-- The matcher that a pattern stands for, if all its parts may be written, and the scope behind
it. -/
def Expr.matcher? (s : Scope) : Expr → Option (Matcher × Scope)
  | .empty => some (.empty, s)
  | .flags changes => some (.empty, s.change changes)
  | .literal l => do return (← s.mode.literal? l, s)
  | .any => do return (.ofSet false (← s.mode.any?), s)
  | .place kind => some (.place (s.mode.anchor kind), s)
  | .common kind negated => do
    return (.ofSet (!s.mode.unicode) (← s.mode.common? kind negated), s)
  | .property kind negated => do return (.ofSet false (← s.mode.property? kind negated), s)
  | .set negated set => do return (.ofSet (!s.mode.unicode) (← s.mode.set? negated set), s)
  | .repeated part least most greedy => do
    let (part, s) ← part.matcher? s
    return (.ofRepeated part least most (greedy != s.mode.swapGreed), s)
  | .group captures changes part => do
    let inside := { s.change changes with groups := s.groups + captures.toNat }
    let (part, behind) ← part.matcher? inside
    return (if captures then .captured inside.groups part else part, { behind with mode := s.mode })
  | .choice alternatives => do
    let (matchers, s) ← matchers? s alternatives
    return (.ofChoice matchers, s)
  | .sequence parts => do
    let (matchers, s) ← matchers? s parts
    return (.ofSequence matchers, s)

/-- The matchers that patterns in one scope stand for, and the scope behind them. -/
def matchers? (s : Scope) : List Expr → Option (List Matcher × Scope)
  | [] => some ([], s)
  | e :: rest => do
    let (m, s) ← e.matcher? s
    let (others, s) ← matchers? s rest
    return (m :: others, s)

end

/-- The matcher that a pattern by itself stands for. -/
def Expr.toMatcher? (e : Expr) : Option Matcher := (e.matcher? {}).map (·.1)

end AutomationConfig.Pattern
