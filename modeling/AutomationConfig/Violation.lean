import AutomationConfig.Duration
import AutomationConfig.Monitor.Kind
import AutomationConfig.Text.Quoted

/-! # Violations

A violation is a rule that a configuration breaks. Validation stops at the first one. Its text is
`Violation.message`. -/

namespace AutomationConfig

/-- A part of a task that watches a variable type. -/
inductive Watcher where
  /-- The list of services of the task. -/
  | servicesField
  /-- The condition of the task. -/
  | condition (kind : MonitorKind)
  /-- A module input of the task. -/
  | moduleInput (kind : MonitorKind)
deriving DecidableEq, Repr

/-- The variable type that is watched. -/
def Watcher.kind : Watcher → MonitorKind
  | servicesField => .services
  | condition kind | moduleInput kind => kind

/-- The words for a part of a task. -/
def Watcher.text : Watcher → String
  | servicesField => "the task `services` field"
  | condition kind => "condition " ++ Text.quote kind.name
  | moduleInput kind => "module_input " ++ Text.quote kind.name

/-- A broken rule. -/
inductive Violation where
  -- connections
  /-- Of a certificate and its key only one is given. -/
  | unpairedKey (owner : String)
  /-- A server lacks its certificate or key. -/
  | serverKeyMissing
  /-- A server that verifies its clients has nothing to verify them against. -/
  | serverAuthorityMissing
  -- the driver
  /-- There are several backends. -/
  | backendCount (types : List String)
  /-- A backend is none of the supported ones. -/
  | unsupportedBackend (type : String) (supported : List String)
  /-- A version is not made of three numbers. -/
  | versionFormat (version : String)
  -- buffer periods
  /-- The bounds of a buffer period are in the wrong order. -/
  | bufferBounds (min max : Duration)
  -- monitors
  /-- Services are selected by pattern and by name. -/
  | servicesSelectedTwice
  /-- Services are not selected. -/
  | servicesNotSelected
  /-- A pattern cannot be compiled. -/
  | badPattern (block field pattern : String)
  /-- A list of names has a blank one. -/
  | blankName (block field : String)
  /-- A key-value monitor has no path. -/
  | keyPathMissing
  /-- A schedule has no cron expression. -/
  | cronMissing
  /-- A cron descriptor is not known. -/
  | cronDescriptor (text : String)
  /-- A cron expression has too few or too many fields. -/
  | cronFieldCount (text : String) (count : Nat)
  /-- A field of a cron expression has a character that it may not have. -/
  | cronField (field text : String)
  /-- A side of an intention is not given. -/
  | sideMissing (side : String)
  /-- A side of an intention is selected by pattern and by name. -/
  | sideSelectedTwice (side : String)
  /-- A side of an intention is not selected. -/
  | sideNotSelected (side : String)
  -- tasks
  /-- A task has no name. -/
  | taskNameMissing
  /-- The name of a task is not an identifier. -/
  | taskNameFormat (name : String)
  /-- A task breaks a rule. -/
  | inTask (name : String) (cause : Violation)
  /-- There is no module. -/
  | moduleMissing
  /-- There is nothing to watch. -/
  | triggerMissing
  /-- A condition on the catalog selects no services. -/
  | catalogPatternMissing
  /-- Services are listed in the task and in its condition. -/
  | servicesTwice
  /-- A scheduled task has no input. -/
  | scheduleWithoutInput
  /-- The list of services has a blank one. -/
  | blankService
  /-- A module input names no type. -/
  | untypedModuleInput
  /-- A module input watches a variable type that another part watches. -/
  | watchedTwice (kind : MonitorKind) (existing : Watcher)
  /-- A provider of a task has no name. -/
  | providerNameMissing
  /-- A task has several instances of a provider. -/
  | providerTwice (base : String)
  -- services and providers
  /-- A service has no name. -/
  | serviceNameMissing
  /-- Two services have one id. -/
  | serviceIdTwice (id : String)
  /-- A provider block names no provider or several. -/
  | providerCount (count : Nat)
  /-- The name of a provider is empty. -/
  | providerNameEmpty
  /-- The arguments of a provider are not a map. -/
  | providerArguments (name : String)
  /-- The alias of a provider is not a text or empty. -/
  | providerAlias (name : String)
  /-- The flag for automatic commits is not a truth value. -/
  | providerAutoCommit (name : String)
  /-- The environment of a provider is not a map of texts. -/
  | providerTaskEnv (name : String)
  /-- Two providers have one id. -/
  | providerIdTwice (id : String)
  -- the whole configuration
  /-- The log level is none of the supported ones. -/
  | logLevel (level : String) (supported : List String)
  /-- Two tasks have one name. -/
  | taskNameTwice (name : String)
  /-- A provider needs Vault, which is not enabled. -/
  | vaultMissing (id : String)
  /-- Several tasks use a provider that cannot be shared. -/
  | autoCommitShared (id : String) (tasks : List String)
deriving DecidableEq, Repr

namespace Violation

/-- The text of a violation. -/
def message : Violation → String
  | unpairedKey owner => owner ++ ".tls: cert and key must be configured together"
  | serverKeyMissing => "tls: cert and key are required when TLS is enabled"
  | serverAuthorityMissing =>
    "tls: ca_cert or ca_path is required when verify_incoming is enabled"
  | backendCount types =>
    "driver.terraform: only one backend can be configured, found " ++ toString types.length ++
      " (" ++ ", ".intercalate types ++ ")"
  | unsupportedBackend type supported =>
    "driver.terraform: unsupported backend " ++ Text.quote type ++ ", expected one of: " ++
      ", ".intercalate supported
  | versionFormat version =>
    "driver.terraform: version " ++ Text.quote version ++ " must be of the form x.y.z"
  | bufferBounds min max =>
    "buffer_period min (" ++ min.text ++ ") cannot be greater than max (" ++ max.text ++ ")"
  | servicesSelectedTwice =>
    "services: regexp and names fields cannot both be configured; include the names in the " ++
      "regexp or split them into separate tasks"
  | servicesNotSelected => "services: either the regexp or names field must be configured"
  | badPattern block field pattern =>
    block ++ ": unable to compile " ++ field ++ " " ++ Text.quote pattern ++ ": <regex error>"
  | blankName block field => block ++ ": " ++ field ++ " must not contain empty strings"
  | keyPathMissing => "consul-kv: path is required"
  | cronMissing => "schedule: cron is required"
  | cronDescriptor text => "schedule: unsupported cron descriptor " ++ Text.quote text
  | cronFieldCount text count =>
    "schedule: cron " ++ Text.quote text ++ " must have between 5 and 7 fields, found " ++
      toString count
  | cronField field text =>
    "schedule: invalid cron field " ++ Text.quote field ++ " in " ++ Text.quote text
  | sideMissing side => "intentions: " ++ side ++ " block is required"
  | sideSelectedTwice side =>
    "intentions: " ++ side ++ " regexp and names fields cannot both be configured"
  | sideNotSelected side =>
    "intentions: " ++ side ++ " requires either the regexp or names field"
  | taskNameMissing => "unique name for the task is required"
  | taskNameFormat name =>
    "unsupported task name format " ++ Text.quote name ++ ": task names must start with a " ++
      "letter or underscore and may only contain letters, digits, underscores and dashes"
  | inTask name cause => "task " ++ Text.quote name ++ ": " ++ cause.message
  | moduleMissing => "module is required"
  | triggerMissing => "at least one service or a condition must be configured"
  | catalogPatternMissing =>
    "catalog-services condition requires either the regexp field or the task `services` field " ++
      "to be configured"
  | servicesTwice =>
    "a task cannot be configured with both the `services` field and a `condition \"services\"` " ++
      "block; only one can be configured per task"
  | scheduleWithoutInput =>
    "schedule condition requires the task `services` field or at least one module_input block"
  | blankService => "services must not contain empty strings"
  | untypedModuleInput => "module_input block must specify a type"
  | watchedTwice kind existing =>
    "module_input " ++ Text.quote kind.name ++ " conflicts with " ++ existing.text ++
      ": both monitor variable type " ++ Text.quote kind.name ++
      "; only one block per variable type is allowed per task"
  | providerNameMissing => "provider names must not be empty"
  | providerTwice base =>
    "only one provider instance per provider name is allowed, found more than one for " ++
      Text.quote base
  | serviceNameMissing => "service: name is required"
  | serviceIdTwice id =>
    "duplicate service id " ++ Text.quote id ++ ": service ids must be unique"
  | providerCount count =>
    "terraform_provider block must have exactly one provider name, found " ++ toString count
  | providerNameEmpty => "terraform_provider name must not be empty"
  | providerArguments name =>
    "terraform_provider " ++ Text.quote name ++ ": arguments must be a map"
  | providerAlias name =>
    "terraform_provider " ++ Text.quote name ++ ": alias must be a non-empty string"
  | providerAutoCommit name =>
    "terraform_provider " ++ Text.quote name ++ ": auto_commit must be a boolean"
  | providerTaskEnv name =>
    "terraform_provider " ++ Text.quote name ++ ": task_env must be a map of strings"
  | providerIdTwice id =>
    "duplicate terraform_provider " ++ Text.quote id ++
      ": providers must have a unique name or alias"
  | logLevel level supported =>
    "log_level " ++ Text.quote level ++ " is not supported, expected one of: " ++
      ", ".intercalate supported
  | taskNameTwice name =>
    "duplicate task name " ++ Text.quote name ++ ": task names must be unique"
  | vaultMissing id =>
    "terraform_provider " ++ Text.quote id ++
      " uses Vault templating but Vault is not configured; add a [vault] block with an address"
  | autoCommitShared id tasks =>
    "terraform_provider " ++ Text.quote id ++
      " has auto_commit enabled and cannot be shared between tasks, used by: " ++
      ", ".intercalate tasks

end Violation

/-- Fails with a violation unless a condition holds. -/
def require (holds : Bool) (violation : Violation) : Except Violation Unit :=
  if holds then .ok () else .error violation

/-- Checks the items of a list in order, and of each that its key is not among those seen before
it. -/
def checkDistinct {α : Type} (check : α → Except Violation Unit) (key : α → String)
    (clash : String → Violation) : (seen : List String) → List α → Except Violation Unit
  | _, [] => .ok ()
  | seen, a :: rest => do
    check a
    require (!seen.contains (key a)) (clash (key a))
    checkDistinct check key clash (key a :: seen) rest

/-! ### Checks that settle a value -/

/-- A value as validation leaves it, and how the validation went. -/
structure Checked (α : Type) where
  value : α
  outcome : Except Violation Unit

namespace Checked

variable {α β : Type}

/-- Leaves the value as it is. -/
def keep (a : α) (outcome : Except Violation Unit) : Checked α := ⟨a, outcome⟩

/-- The value inside another one. -/
def map (f : α → β) (c : Checked α) : Checked β := ⟨f c.value, c.outcome⟩

/-- The outcome as one of a task. -/
def inTask (name : String) (c : Checked α) : Checked α :=
  ⟨c.value, c.outcome.mapError (.inTask name)⟩

/-- Goes on with the value unless the outcome is a violation. -/
def andThen (c : Checked α) (next : α → Checked α) : Checked α :=
  match c.outcome with
  | .ok () => next c.value
  | .error _ => c

/-- Validates the items of a list in order up to the first violation; those after it stay. -/
def each (validate : α → Checked α) : List α → Checked (List α)
  | [] => ⟨[], .ok ()⟩
  | a :: rest =>
    let first := validate a
    match first.outcome with
    | .ok () => (each validate rest).map (first.value :: ·)
    | .error v => ⟨first.value :: rest, .error v⟩

end Checked

end AutomationConfig
