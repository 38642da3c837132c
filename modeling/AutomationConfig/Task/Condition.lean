import AutomationConfig.Diagnostics
import AutomationConfig.Monitor

/-! # Conditions

A condition says when a task runs: when what its monitor watches changes, or by the clock. A
condition on services, the catalog or keys also says whether what it watches is handed to the module
of the task. -/

namespace AutomationConfig

/-- When a task runs. -/
structure Condition where
  monitor : Monitor := .none
  useAsModuleInput : Setting Bool := none
  /-- The earlier name of `useAsModuleInput`. -/
  sourceIncludesVar : Setting Bool := none
deriving DecidableEq, Inhabited

namespace Condition

/-- The kinds of monitors that a condition may have. -/
def kinds : List MonitorKind := [.services, .catalogServices, .consulKv, .schedule]

/-- Whether nothing is watched. -/
def isNone (c : Condition) : Bool := c.monitor.isNone

/-- Whether what is watched is handed to the module. -/
def usedAsModuleInput (c : Condition) : Bool :=
  c.monitor.feedsModule && c.useAsModuleInput.getD true

/-- Conditions of one kind are merged; one of another kind replaces the earlier one as a whole. -/
def merge (base other : Condition) : Condition :=
  if other.isNone then base
  else if base.isNone || base.monitor.kind? ≠ other.monitor.kind? then other
  else {
    monitor := base.monitor.merge other.monitor
    useAsModuleInput := base.useAsModuleInput.merge other.useAsModuleInput
    sourceIncludesVar := base.sourceIncludesVar.merge other.sourceIncludesVar }

/-- The condition with its defaults filled in and its deprecated flag moved to where it belongs. -/
def finalize (c : Condition) : Condition :=
  if c.monitor.feedsModule then {
    monitor := c.monitor.finalize
    useAsModuleInput := (c.sourceIncludesVar.merge c.useAsModuleInput).orDefault true
    sourceIncludesVar := none }
  else { c with monitor := c.monitor.finalize }

/-- The advice on the deprecated flag. -/
def warnings (c : Condition) : List Diagnostic :=
  if c.monitor.feedsModule then
    let kind := Text.quote c.monitor.variableType
    match c.sourceIncludesVar with
    | none => []
    | some old =>
      ⟨.deprecatedField, "the `source_includes_var` field in condition " ++ kind ++
        " is deprecated; use `use_as_module_input` instead"⟩ ::
      if c.useAsModuleInput.any (· ≠ old) then
        [⟨.conflictingDeprecatedField, "condition " ++ kind ++
          " sets both `use_as_module_input` and `source_includes_var`; using " ++
          "`use_as_module_input`"⟩]
      else []
  else []

/-- Settles the monitor and checks it. -/
def validate (c : Condition) : Checked Condition :=
  c.monitor.validate.map fun m => { c with monitor := m }

/-! ### Reading -/

/-- Takes a flag out of the body of a condition. -/
def takeFlag (type field : String) (body : Monitor.Entries) :
    Except Mismatch (Setting Bool × Monitor.Entries) :=
  let rest := body.filter fun e => e.1 != field
  match findEntry field body with
  | none | some .null => .ok (none, rest)
  | some (.bool b) => .ok (some b, rest)
  | some found => .error (.flagNotBool type field found)

/-- The names of the kinds whose conditions have flags. -/
def flaggedTypes : List String := (kinds.filter MonitorKind.feedsModule).map MonitorKind.name

/-- Reads a condition from its typed block. -/
def readBlock (d : Document) : Except Mismatch Condition := do
  let (type, body) ← Monitor.splitTyped "condition" d
  if flaggedTypes.contains type then
    let (useAsModuleInput, body) ← takeFlag type "use_as_module_input" body
    let (sourceIncludesVar, body) ← takeFlag type "source_includes_var" body
    let monitor ← Monitor.readBody "condition" kinds type body
    return { monitor, useAsModuleInput, sourceIncludesVar }
  else
    return { monitor := ← Monitor.readBody "condition" kinds type body }

instance : Readable Condition :=
  ⟨fun
    | .list [d] => readBlock d
    | .list items => .error (.conditionCount items.length)
    | d => readBlock d⟩

instance : Outlined Condition :=
  ⟨fun c => .record "ConditionConfig" [
    ("monitor", outline c.monitor),
    ("use_as_module_input", outline c.useAsModuleInput),
    ("deprecated_source_includes_var", outline c.sourceIncludesVar)]⟩

end Condition

end AutomationConfig
