import AutomationConfig.Task.Condition

/-! # Module inputs

The module of a task is fed with what its module inputs watch. No two parts of a task may watch the
same type of variables: neither two inputs, nor an input and the condition or the list of services
of the task. -/

namespace AutomationConfig

/-- Something that is watched for the module of a task. -/
structure ModuleInput where
  monitor : Monitor := .none
deriving DecidableEq, Inhabited

namespace ModuleInput

/-- The kinds of monitors that a module input may have. -/
def kinds : List MonitorKind := [.services, .catalogServices, .consulKv, .intentions]

/-- Monitors of one kind are merged; one of another kind replaces the earlier one. -/
def merge (base other : ModuleInput) : ModuleInput := ⟨base.monitor.merge other.monitor⟩

/-- The input with its defaults filled in. -/
def finalize (i : ModuleInput) : ModuleInput := ⟨i.monitor.finalize⟩

/-- Settles the monitor and checks it. -/
def validate (i : ModuleInput) : Checked ModuleInput := i.monitor.validate.map ModuleInput.mk

/-- Reads an input from its typed block. -/
def readBlock (d : Document) : Except Mismatch ModuleInput := do
  let (type, body) ← Monitor.splitTyped "module_input" d
  return ⟨← Monitor.readBody "module_input" kinds type body⟩

/-- Reads inputs in order. -/
def readBlocks : List Document → Except Mismatch (List ModuleInput)
  | [] => .ok []
  | d :: rest => do
    let i ← readBlock d
    let is ← readBlocks rest
    return i :: is

instance : Outlined ModuleInput :=
  ⟨fun i => .record "ModuleInputConfig" [("monitor", outline i.monitor)]⟩

end ModuleInput

/-- The module inputs of a task, in order. -/
structure ModuleInputs where
  items : List ModuleInput := []
deriving DecidableEq, Inhabited

namespace ModuleInputs

/-- Whether there are no inputs. -/
def isEmpty (inputs : ModuleInputs) : Bool := inputs.items.isEmpty

/-- The inputs with one more at the end. -/
def push (inputs : ModuleInputs) (i : ModuleInput) : ModuleInputs := ⟨inputs.items ++ [i]⟩

/-- The inputs of both. -/
def merge (base other : ModuleInputs) : ModuleInputs := ⟨base.items ++ other.items⟩

/-- The inputs with their defaults filled in. -/
def finalize (inputs : ModuleInputs) : ModuleInputs := ⟨inputs.items.map ModuleInput.finalize⟩

/-- Every input watches something that none of the watchers so far watches. -/
def checkWatchers : (watchers : List Watcher) → List ModuleInput → Except Violation Unit
  | _, [] => .ok ()
  | watchers, i :: rest =>
    match i.monitor.kind? with
    | none => .error .untypedModuleInput
    | some kind =>
      match watchers.find? fun c => c.kind = kind with
      | some watcher => .error (.watchedTwice kind watcher)
      | none => checkWatchers (watchers ++ [.moduleInput kind]) rest

/-- What the list of services and the condition of a task watch. -/
def watchersOf (services : List String) (condition : Condition) : List Watcher :=
  (if services.isEmpty then [] else [.servicesField]) ++
    (condition.monitor.kind?.map Watcher.condition).toList

/-- Checks the watchers of the inputs, then settles and checks the inputs in order. -/
def validate (services : List String) (condition : Condition) (inputs : ModuleInputs) :
    Checked ModuleInputs :=
  (Checked.keep inputs (checkWatchers (watchersOf services condition) inputs.items)).andThen
    fun inputs => (Checked.each ModuleInput.validate inputs.items).map ModuleInputs.mk

instance : Readable ModuleInputs :=
  ⟨fun
    | .null => .ok {}
    | .list blocks => ModuleInputs.mk <$> ModuleInput.readBlocks blocks
    | d => do return ⟨[← ModuleInput.readBlock d]⟩⟩

instance : Outlined ModuleInputs :=
  ⟨fun inputs => .apply "ModuleInputConfigs" [outline inputs.items]⟩

end ModuleInputs

end AutomationConfig
