import AutomationConfig.Task

/-! # Advice on tasks

Filling in the defaults of a task gives advice on the deprecated ways of saying things that it uses
and on a buffer period that its schedule overrides. -/

namespace AutomationConfig.Task

/-- The words that name a task in advice. -/
def title (t : Task) : String := "task " ++ Text.quote t.name.value

/-- The advice on the deprecated source. -/
def sourceWarnings (t : Task) : List Diagnostic :=
  if t.source.isGiven then
    ⟨.deprecatedField, t.title ++ ": the `source` field is deprecated; use `module` instead"⟩ ::
    if t.module.isGiven && t.module ≠ t.source then
      [⟨.conflictingDeprecatedField, t.title ++
        ": both `module` and `source` are configured; using `module` (" ++
        Text.quote t.module.value ++ ")"⟩]
    else []
  else []

/-- The advice on the deprecated source inputs. -/
def sourceInputWarnings (t : Task) : List Diagnostic :=
  if t.sourceInputs.isEmpty then []
  else [⟨.deprecatedField, t.title ++
    ": the `source_input` block is deprecated; use `module_input` instead"⟩]

/-- The advice on the deprecated list of services. -/
def servicesWarnings (t : Task) : List Diagnostic :=
  if t.services.isEmpty then []
  else [⟨.deprecatedField, t.title ++
    ": the `services` field is deprecated; use a `condition \"services\"` or " ++
      "`module_input \"services\"` block instead"⟩]

/-- The advice on a buffer period that the schedule overrides. -/
def overrideWarnings (t : Task) : List Diagnostic :=
  if t.isScheduled && t.bufferPeriod.any (· ≠ BufferPeriod.disabled) then
    [⟨.overriddenValue, t.title ++
      ": buffer_period is not supported for tasks with a schedule condition and will be disabled"⟩]
  else []

/-- The advice on a task. -/
def warnings (t : Task) : List Diagnostic :=
  t.sourceWarnings ++ t.sourceInputWarnings ++ t.servicesWarnings ++ t.condition.warnings ++
    t.overrideWarnings

end AutomationConfig.Task
