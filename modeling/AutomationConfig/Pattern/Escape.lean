/-! # Patterns for names

The characters with a meaning in patterns stand for themselves behind a backslash. So a list of
names has a pattern that matches these names and nothing else: each name between the two ends of
the text, with bars between them. -/

namespace AutomationConfig.Pattern

/-- Whether a character has a meaning in patterns. -/
def isMeta (c : Char) : Bool :=
  ['\\', '.', '+', '*', '?', '(', ')', '|', '[', ']', '\x7b', '\x7d', '^', '$', '#', '&', '-',
    '~'].contains c

/-- The text with a backslash before every character that has a meaning in patterns. -/
def escape (name : List Char) : List Char :=
  name.flatMap fun c => if isMeta c then ['\\', c] else [c]

/-- The pattern of a name from end to end. -/
def whole (name : List Char) : List Char := '^' :: (escape name ++ ['$'])

/-- The pattern of exactly the given names. -/
def ofNames (names : List String) : String :=
  String.ofList (['|'].intercalate (names.map fun name => whole name.toList))

end AutomationConfig.Pattern
