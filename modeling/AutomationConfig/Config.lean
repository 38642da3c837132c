import AutomationConfig.Catalog.Service
import AutomationConfig.Connection.Vault
import AutomationConfig.Daemon.ServerTls
import AutomationConfig.Daemon.Syslog
import AutomationConfig.Task.Warnings
import AutomationConfig.Terraform.Driver
import AutomationConfig.Terraform.Provider

/-! # Configurations

A configuration is read from several fragments, which are merged in order: a later setting replaces
an earlier one, maps are merged entry by entry and lists add up. Then defaults are filled in, block
by block: the backend of Terraform follows from the connection to Consul, and tasks inherit the
global buffer period and the working directory. -/

namespace AutomationConfig

/-- A configuration, or a fragment of one. -/
structure Config where
  port : Setting UInt16 := none
  id : Setting String := none
  logLevel : Setting String := none
  clientType : Setting String := none
  workingDir : Setting String := none
  syslog : Option Syslog := none
  consul : Option Consul := none
  vault : Option Vault := none
  driver : Option Driver := none
  tasks : List Task := []
  services : List Service := []
  providers : List Provider := []
  bufferPeriod : Option BufferPeriod := none
  tls : Option ServerTls := none
deriving BEq, Inhabited

namespace Config

/-- The task of that name. -/
def task? (c : Config) (name : String) : Option Task := c.tasks.find? fun t => t.name.value == name

/-- Whether Vault is switched on. -/
def vaultEnabled (c : Config) : Bool := c.vault.any Vault.isEnabled

/-- The later of the settings of two fragments; lists add up. -/
def merge (base other : Config) : Config where
  port := base.port.merge other.port
  id := base.id.merge other.id
  logLevel := base.logLevel.merge other.logLevel
  clientType := base.clientType.merge other.clientType
  workingDir := base.workingDir.merge other.workingDir
  syslog := base.syslog.merge Syslog.merge other.syslog
  consul := base.consul.merge Consul.merge other.consul
  vault := base.vault.merge Vault.merge other.vault
  driver := base.driver.merge Driver.merge other.driver
  tasks := base.tasks ++ other.tasks
  services := base.services ++ other.services
  providers := base.providers ++ other.providers
  bufferPeriod := base.bufferPeriod.merge BufferPeriod.merge other.bufferPeriod
  tls := base.tls.merge ServerTls.merge other.tls

/-! ### Defaults -/

/-- The connection to Consul with its defaults filled in. -/
def finalConsul (c : Config) (processors : UInt64) : Consul :=
  (c.consul.getD {}).finalize processors

/-- The global buffer period with its defaults filled in. -/
def finalBufferPeriod (c : Config) : BufferPeriod :=
  (c.bufferPeriod.getD .builtIn).finalize .builtIn

/-- The directory that holds the working directories of tasks. -/
def finalWorkingDir (c : Config) : String := c.workingDir.getD "sync-tasks"

/-- The configuration with its defaults filled in, on so many processors. -/
def finalize (c : Config) (processors : UInt64 := 1) : Config where
  port := c.port.orDefault 8558
  id := c.id.orDefault "consul-terraform-sync"
  logLevel := c.logLevel.orDefault "INFO"
  clientType := c.clientType.orDefault ""
  workingDir := some c.finalWorkingDir
  syslog := some (c.syslog.getD {}).finalize
  consul := some (c.finalConsul processors)
  vault := some ((c.vault.getD {}).finalize processors)
  driver := some ((c.driver.getD {}).finalize (c.finalConsul processors))
  tasks := c.tasks.map (Task.finalize c.finalBufferPeriod c.finalWorkingDir)
  services := c.services.map Service.finalize
  providers := c.providers
  bufferPeriod := some c.finalBufferPeriod
  tls := some (c.tls.getD {}).finalize

/-- The advice on a configuration: that on its tasks, each piece once. -/
def warnings (c : Config) : Diagnostics := .ofList (c.tasks.flatMap Task.warnings)

instance : Block Config where
  name := "Config"
  blank := {}
  fields := [
    Field.of "port" port fun v b => { b with port := v },
    Field.of "id" Config.id fun v b => { b with id := v },
    Field.of "log_level" logLevel fun v b => { b with logLevel := v },
    Field.of "client_type" clientType fun v b => { b with clientType := v },
    Field.of "working_dir" workingDir fun v b => { b with workingDir := v },
    Field.of "syslog" syslog fun v b => { b with syslog := v },
    Field.of "consul" consul fun v b => { b with consul := v },
    Field.of "vault" vault fun v b => { b with vault := v },
    Field.of "driver" driver fun v b => { b with driver := v },
    (Field.of "task" tasks fun v b => { b with tasks := v }).optional,
    (Field.of "service" services fun v b => { b with services := v }).optional,
    (Field.of "terraform_provider" providers fun v b => { b with providers := v }).optional,
    Field.of "buffer_period" bufferPeriod fun v b => { b with bufferPeriod := v },
    Field.of "tls" tls fun v b => { b with tls := v }]

end Config

end AutomationConfig
