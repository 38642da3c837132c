import AutomationConfig.Task
import AutomationConfig.Terraform.Name

/-! # Rules for tasks

Validation checks a task from its name to its buffer period and stops at the first broken rule. On
the way it settles the monitors that it reaches. -/

namespace AutomationConfig.Task

/-! ### Names -/

/-- Whether a name of a task may start with the character. -/
def isNameStart (c : Char) : Bool := c.isAlpha || c == '_'

/-- Whether a name of a task may hold the character after its start. -/
def isNameChar (c : Char) : Bool := c.isAlphanum || c == '_' || c == '-'

/-- Whether a text is a name for a task. -/
def isName (name : String) : Bool :=
  match name.toList with
  | [] => false
  | c :: rest => isNameStart c && rest.all isNameChar

/-! ### Rules -/

/-- There is something that makes the task run, and one way of saying it only. -/
def checkTrigger (t : Task) : Except Violation Unit := do
  require (!t.services.isEmpty || !t.condition.isNone) .triggerMissing
  match t.condition.monitor with
  | .catalogServices m =>
    require (m.pattern.isSome || !t.services.isEmpty) .catalogPatternMissing
  | .services _ => require t.services.isEmpty .servicesTwice
  | .schedule _ =>
    require (!t.services.isEmpty || !t.moduleInputs.isEmpty) .scheduleWithoutInput
  | _ => .ok ()

/-- The task has an identifier for a name. -/
def checkName (t : Task) : Except Violation Unit := do
  require t.name.isGiven .taskNameMissing
  require (isName t.name.value) (.taskNameFormat t.name.value)

/-- The rules for what a task runs and when. -/
def checkHead (t : Task) : Except Violation Unit := do
  require t.module.isGiven .moduleMissing
  t.checkTrigger
  require (!t.services.any Text.isAllBlank) .blankService

/-- A task names its providers, and each once. -/
def checkProviders (t : Task) : Except Violation Unit :=
  checkDistinct (fun id => require (providerBaseName id != "") .providerNameMissing)
    providerBaseName .providerTwice [] t.providers

/-- The rules for the providers and the buffer period of a task. -/
def checkTail (t : Task) : Except Violation Unit := do
  t.checkProviders
  match t.bufferPeriod with
  | some b => b.check
  | none => .ok ()

/-- Settles the condition and checks it. -/
def validateCondition (t : Task) : Checked Task :=
  t.condition.validate.map fun c => { t with condition := c }

/-- Settles the module inputs and checks them. -/
def validateInputs (t : Task) : Checked Task :=
  (t.moduleInputs.validate t.services t.condition).map fun i => { t with moduleInputs := i }

/-- Settles a task and checks what is not its name. -/
def validateBody (t : Task) : Checked Task :=
  (((Checked.keep t t.checkHead).andThen validateCondition).andThen validateInputs).andThen
    fun t => .keep t t.checkTail

/-- Settles a task and checks it. -/
def validate (t : Task) : Checked Task :=
  (Checked.keep t t.checkName).andThen fun t => t.validateBody.inTask t.name.value

end AutomationConfig.Task
