import AutomationConfig.Pattern.Acceptance
import AutomationConfig.Text.Blank
import AutomationConfig.Violation

/-! # Selections

Services are selected by a pattern over their names or by a list of names. -/

namespace AutomationConfig

/-- A pattern must be one that can be compiled. -/
def checkPattern (block field pattern : String) : Except Violation Unit :=
  require (Pattern.accepts pattern) (.badPattern block field pattern)

/-- No name in a list may be blank. -/
def checkNames (block field : String) (names : List String) : Except Violation Unit :=
  require (!names.any Text.isAllBlank) (.blankName block field)

/-- Exactly one of pattern and names is given, and it is in order. The words for the pattern and for
the names come from the block. -/
def checkSelection (block patternField namesField : String) (both neither : Violation)
    (pattern : Option String) (names : List String) : Except Violation Unit :=
  match pattern, names with
  | some _, _ :: _ => .error both
  | none, [] => .error neither
  | some p, [] => checkPattern block patternField p
  | none, names => checkNames block namesField names

end AutomationConfig
