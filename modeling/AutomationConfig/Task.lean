import AutomationConfig.Path
import AutomationConfig.Pattern.Escape
import AutomationConfig.Task.BufferPeriod
import AutomationConfig.Task.ModuleInput

/-! # Tasks

A task runs a Terraform module when its condition says so, with what its module inputs and its
condition watch. The list of services, the source and the source inputs are earlier ways to say the
same; the latter two are moved to where they belong when defaults are filled in. -/

namespace AutomationConfig

/-- A task. -/
structure Task where
  name : Setting String := none
  description : Setting String := none
  providers : List String := []
  services : List String := []
  module : Setting String := none
  /-- The earlier name of `module`. -/
  source : Setting String := none
  version : Setting String := none
  moduleVariables : Table String := .empty
  varFiles : List String := []
  bufferPeriod : Option BufferPeriod := none
  enabled : Setting Bool := none
  condition : Condition := {}
  moduleInputs : ModuleInputs := {}
  /-- The earlier name of `moduleInputs`. -/
  sourceInputs : ModuleInputs := {}
  workingDir : Setting String := none
deriving DecidableEq, Inhabited

namespace Task

/-- Whether the task is switched on. -/
def isEnabled (t : Task) : Bool := t.enabled.getD true

/-- Whether the task runs by the clock. -/
def isScheduled (t : Task) : Bool := t.condition.monitor.kind? = some .schedule

/-- The later of the settings of two fragments; lists add up. -/
def merge (base other : Task) : Task where
  name := base.name.merge other.name
  description := base.description.merge other.description
  providers := base.providers ++ other.providers
  services := base.services ++ other.services
  module := base.module.merge other.module
  source := base.source.merge other.source
  version := base.version.merge other.version
  moduleVariables := base.moduleVariables.merge other.moduleVariables
  varFiles := base.varFiles ++ other.varFiles
  bufferPeriod := base.bufferPeriod.merge BufferPeriod.merge other.bufferPeriod
  enabled := base.enabled.merge other.enabled
  condition := base.condition.merge other.condition
  moduleInputs := base.moduleInputs.merge other.moduleInputs
  sourceInputs := base.sourceInputs.merge other.sourceInputs
  workingDir := base.workingDir.merge other.workingDir

/-! ### Defaults -/

/-- The module, or what the deprecated source says if there is no module. -/
def effectiveModule (t : Task) : Setting String :=
  if t.source.isGiven && !t.module.isGiven then t.source else t.module

/-- The pattern of a monitor of the catalog, derived from the services if it is unset. -/
def derivePattern (services : List String) : Monitor → Monitor
  | .catalogServices m =>
    if m.pattern.isNone && !services.isEmpty then
      .catalogServices { m with pattern := some (Pattern.ofNames services) }
    else .catalogServices m
  | m => m

/-- The condition with its defaults filled in. -/
def finalizeCondition (t : Task) : Condition :=
  let c := t.condition.finalize
  { c with monitor := derivePattern t.services c.monitor }

/-- The buffer period of the task: none by the clock, its own, or the global one. -/
def finalizeBufferPeriod (global : BufferPeriod) (t : Task) : BufferPeriod :=
  if t.isScheduled then .disabled else (t.bufferPeriod.getD global).finalize global

/-- The task with its defaults filled in, given the global buffer period and the directory that
holds the working directories of tasks. -/
def finalize (global : BufferPeriod) (root : String) (t : Task) : Task where
  name := t.name.orDefault ""
  description := t.description.orDefault ""
  providers := t.providers
  services := t.services
  module := t.effectiveModule.orDefault ""
  source := none
  version := t.version.orDefault ""
  moduleVariables := t.moduleVariables
  varFiles := t.varFiles
  bufferPeriod := some (t.finalizeBufferPeriod global)
  enabled := t.enabled.orDefault true
  condition := t.finalizeCondition
  moduleInputs := (t.moduleInputs.merge t.sourceInputs).finalize
  sourceInputs := {}
  workingDir := t.workingDir.orDefault ((Path.mk root).join t.name.value).text

instance : Block Task where
  name := "TaskConfig"
  blank := {}
  fields := [
    Field.of "name" Task.name fun v b => { b with name := v },
    Field.of "description" description fun v b => { b with description := v },
    (Field.of "providers" providers fun v b => { b with providers := v }).optional,
    (Field.of "services" services fun v b => { b with services := v }).optional,
    Field.of "module" Task.module fun v b => { b with module := v },
    ((Field.of "source" source fun v b => { b with source := v }).labelled
      "deprecated_source").optional,
    Field.of "version" version fun v b => { b with version := v },
    (Field.of "variables" moduleVariables fun v b => { b with moduleVariables := v }).optional,
    (Field.of "var_files" varFiles fun v b => { b with varFiles := v }).optional,
    Field.of "buffer_period" bufferPeriod fun v b => { b with bufferPeriod := v },
    Field.of "enabled" enabled fun v b => { b with enabled := v },
    (Field.of "condition" condition fun v b => { b with condition := v }).optional,
    (Field.of "module_input" moduleInputs fun v b => { b with moduleInputs := v }).optional,
    ((Field.of "source_input" sourceInputs fun v b => { b with sourceInputs := v }).labelled
      "deprecated_source_input").optional,
    Field.of "working_dir" workingDir fun v b => { b with workingDir := v }]

end Task

end AutomationConfig
