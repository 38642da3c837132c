import AutomationConfig.Text.Blank
import AutomationConfig.Text.Case
import AutomationConfig.Violation

/-! # Cron expressions

A cron expression is a descriptor, which starts with an at sign, or five to seven fields with blanks
between them: seconds in front and the year behind may be left out. -/

namespace AutomationConfig.Cron

/-- The descriptors. -/
def descriptors : List String :=
  ["@yearly", "@annually", "@monthly", "@weekly", "@daily", "@midnight", "@hourly"]

/-- Whether a field may hold the character. -/
def isFieldChar (c : Char) : Bool :=
  c.isAlphanum || c == '*' || c == '/' || c == ',' || c == '?' || c == '#' || c == '-'

/-- The rules for an expression without blanks at its ends. -/
def checkTrimmed (text : List Char) : Except Violation Unit :=
  if text.isEmpty then .error .cronMissing
  else if text.head? = some '@' then
    require (descriptors.any (Text.lowersTo text)) (.cronDescriptor (String.ofList text))
  else
    let fields := Text.words text
    if fields.length < 5 || 7 < fields.length then
      .error (.cronFieldCount (String.ofList text) fields.length)
    else
      match fields.find? fun field => !field.all isFieldChar with
      | some field => .error (.cronField (String.ofList field) (String.ofList text))
      | none => .ok ()

/-- The rules for an expression. -/
def check (expression : String) : Except Violation Unit :=
  checkTrimmed (Text.trim expression.toList)

end AutomationConfig.Cron
