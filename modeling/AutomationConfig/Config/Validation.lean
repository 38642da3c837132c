import AutomationConfig.Config
import AutomationConfig.Task.Validation

/-! # Rules for configurations

Validation checks every block and then the rules that span several blocks. It stops at the first
broken rule; of the configuration it changes only what validating the tasks settles. -/

namespace AutomationConfig.Config

/-- The log levels that may be given, in any case. -/
def logLevels : List String := ["TRACE", "DEBUG", "INFO", "WARN", "ERR", "ERROR"]

/-- The log level is a known one. -/
def checkLogLevel (c : Config) : Except Violation Unit :=
  let level := c.logLevel.value
  require (level.isEmpty || logLevels.any (Text.equalsIgnoringAsciiCase level))
    (.logLevel level logLevels)

/-- No two tasks have one name. -/
def checkTaskNames (c : Config) : Except Violation Unit :=
  checkDistinct (fun _ => .ok ()) (fun t : Task => t.name.value) .taskNameTwice [] c.tasks

/-- Providers ask for secrets of Vault only if Vault is switched on. -/
def checkVaultUse (c : Config) : Except Violation Unit :=
  match c.providers.find? Provider.usesVault with
  | some p => require c.vaultEnabled (.vaultMissing p.id)
  | none => .ok ()

/-- The names of the tasks that use the provider of an id, as often as they use it. -/
def usersOf (c : Config) (id : String) : List String :=
  c.tasks.flatMap fun t => (t.providers.filter (· == id)).map fun _ => t.name.value

/-- The ids of the providers that commit automatically, in order. -/
def autoCommitIds (c : Config) : List String :=
  (Table.ofList ((c.providers.filter Provider.autoCommit).map fun p => (p.id, ()))).keys

/-- A provider that commits automatically is used once at most. -/
def checkSharing (c : Config) : Except Violation Unit :=
  match c.autoCommitIds.find? fun id => 1 < (c.usersOf id).length with
  | some id => .error (.autoCommitShared id (c.usersOf id))
  | none => .ok ()

/-- The rules that span several blocks. -/
def checkAcross (c : Config) : Except Violation Unit := do
  c.checkLogLevel
  c.checkTaskNames
  c.checkVaultUse
  c.checkSharing

/-- A block that is not there breaks no rule. -/
def checkBlock {α : Type} (check : α → Except Violation Unit) : Option α → Except Violation Unit
  | some a => check a
  | none => .ok ()

/-- The rules for the blocks before the tasks. -/
def checkHead (c : Config) : Except Violation Unit := do
  checkBlock Consul.check c.consul
  checkBlock Vault.check c.vault
  checkBlock ServerTls.check c.tls
  checkBlock Driver.check c.driver

/-- The rules for the blocks after the tasks, and across blocks. -/
def checkTail (c : Config) : Except Violation Unit := do
  Service.checkAll c.services
  Provider.checkAll c.providers
  checkBlock BufferPeriod.check c.bufferPeriod
  c.checkAcross

/-- Settles the tasks and checks them. -/
def validateTasks (c : Config) : Checked Config :=
  (Checked.each Task.validate c.tasks).map fun tasks => { c with tasks }

/-- Settles a configuration and checks it. -/
def validate (c : Config) : Checked Config :=
  ((Checked.keep c c.checkHead).andThen validateTasks).andThen fun c => .keep c c.checkTail

end AutomationConfig.Config
