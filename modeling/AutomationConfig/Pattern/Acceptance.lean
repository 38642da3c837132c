import AutomationConfig.Pattern.Meaning
import AutomationConfig.Pattern.Program
import AutomationConfig.Pattern.Reading

/-! # Accepted patterns

A pattern is accepted if it can be read, is not nested too deep, has no part that may not be written
under its flags, and is not too large when it is compiled. -/

namespace AutomationConfig

namespace Pattern

/-- How deep a pattern may be nested. -/
def maxDepth : Nat := 250

/-- From so many texts on, a choice of texts is looked up in a table instead of being compiled. -/
def tableThreshold : Nat := 3000

/-- Whether a matcher is looked up in a table. -/
def Matcher.isTable : Matcher → Bool
  | .choice alternatives =>
    tableThreshold ≤ alternatives.length && alternatives.all (·.word?.isSome)
  | _ => false

/-- Whether a matcher can be used. -/
def Matcher.isUsable (m : Matcher) : Bool := m.isTable || m.fits

/-- Whether a pattern obeys the rules for all its parts. -/
def Expr.isAllowed (e : Expr) : Bool := e.depth ≤ maxDepth && e.toMatcher?.any Matcher.isUsable

end Pattern

/-- Whether a text is an accepted pattern. -/
def Pattern.accepts (source : String) : Bool :=
  (Pattern.Expr.ofText? source.toList).any Pattern.Expr.isAllowed

end AutomationConfig
