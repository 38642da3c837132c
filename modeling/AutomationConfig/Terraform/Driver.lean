import AutomationConfig.Terraform.Backend
import AutomationConfig.Terraform.Version

/-! # The driver

Tasks are run by a driver, and Terraform is the only one. -/

namespace AutomationConfig

/-- How Terraform is run. -/
structure Terraform where
  version : Setting String := none
  log : Setting Bool := none
  persistLog : Setting Bool := none
  path : Setting String := none
  /-- The type of the backend and its arguments. -/
  backend : Table Document := .empty
  requiredProviders : Table Document := .empty
deriving BEq, Inhabited

namespace Terraform

/-- The type of the backend. -/
def backendType? (t : Terraform) : Option String := t.backend.keys.head?

/-- The later of the settings of two fragments. A backend replaces the earlier one as a whole. -/
def merge (base other : Terraform) : Terraform where
  version := base.version.merge other.version
  log := base.log.merge other.log
  persistLog := base.persistLog.merge other.persistLog
  path := base.path.merge other.path
  backend := if other.backend.isEmpty then base.backend else other.backend
  requiredProviders := base.requiredProviders.merge other.requiredProviders

/-- The block with its defaults filled in, given the connection to Consul. -/
def finalize (t : Terraform) (consul : Consul) : Terraform where
  version := t.version.orDefault ""
  log := t.log.orDefault false
  persistLog := t.persistLog.orDefault false
  path := t.path.orDefault ""
  backend := if t.backend.isEmpty then Backend.ofConsul consul else t.backend
  requiredProviders := t.requiredProviders

/-- There is one backend at most, and it can be used. -/
def checkBackend (t : Terraform) : Except Violation Unit :=
  match t.backend.keys with
  | [] => .ok ()
  | [type] => require (Backend.supported.contains type) (.unsupportedBackend type Backend.supported)
  | types => .error (.backendCount types)

/-- The rules for the block. -/
def check (t : Terraform) : Except Violation Unit := do
  t.checkBackend
  require (!t.version.isGiven || isVersion t.version.value) (.versionFormat t.version.value)

instance : Block Terraform where
  name := "TerraformConfig"
  blank := {}
  fields := [
    Field.of "version" version fun v b => { b with version := v },
    Field.of "log" Terraform.log fun v b => { b with log := v },
    Field.of "persist_log" persistLog fun v b => { b with persistLog := v },
    Field.of "path" path fun v b => { b with path := v },
    (Field.of "backend" backend fun v b => { b with backend := v }).optional,
    (Field.of "required_providers" requiredProviders fun v b =>
      { b with requiredProviders := v }).optional]

end Terraform

/-- The driver that runs tasks. -/
structure Driver where
  terraform : Option Terraform := none
deriving BEq, Inhabited

namespace Driver

/-- The later of the settings of two fragments. -/
def merge (base other : Driver) : Driver :=
  ⟨base.terraform.merge Terraform.merge other.terraform⟩

/-- The block with its defaults filled in, given the connection to Consul. -/
def finalize (d : Driver) (consul : Consul) : Driver :=
  ⟨some ((d.terraform.getD {}).finalize consul)⟩

/-- The rules for the block. -/
def check (d : Driver) : Except Violation Unit :=
  match d.terraform with
  | some t => t.check
  | none => .ok ()

instance : Block Driver where
  name := "DriverConfig"
  blank := {}
  fields := [Field.of "terraform" terraform fun v b => { b with terraform := v }]

end Driver

end AutomationConfig
