import AutomationConfig.Schema
import AutomationConfig.Setting

/-! # Registration

The daemon registers itself with Consul as a service, together with a check of its health. -/

namespace AutomationConfig

/-- The check that comes with the registration. -/
structure DefaultCheck where
  enabled : Setting Bool := none
  address : Setting String := none
deriving DecidableEq, Inhabited

namespace DefaultCheck

/-- The later of the settings of two fragments. -/
def merge (base other : DefaultCheck) : DefaultCheck where
  enabled := base.enabled.merge other.enabled
  address := base.address.merge other.address

/-- The block with its defaults filled in. -/
def finalize (c : DefaultCheck) : DefaultCheck where
  enabled := c.enabled.orDefault true
  address := c.address.orDefault ""

instance : Block DefaultCheck where
  name := "DefaultCheckConfig"
  blank := {}
  fields := [
    Field.of "enabled" enabled fun v b => { b with enabled := v },
    Field.of "address" address fun v b => { b with address := v }]

end DefaultCheck

/-- How the daemon is registered. -/
structure Registration where
  enabled : Setting Bool := none
  serviceName : Setting String := none
  address : Setting String := none
  space : Setting String := none
  defaultCheck : Option DefaultCheck := none
deriving DecidableEq, Inhabited

namespace Registration

/-- The later of the settings of two fragments. -/
def merge (base other : Registration) : Registration where
  enabled := base.enabled.merge other.enabled
  serviceName := base.serviceName.merge other.serviceName
  address := base.address.merge other.address
  space := base.space.merge other.space
  defaultCheck := base.defaultCheck.merge DefaultCheck.merge other.defaultCheck

/-- The block with its defaults filled in. -/
def finalize (r : Registration) : Registration where
  enabled := r.enabled.orDefault true
  serviceName := r.serviceName.orDefault "Consul-Terraform-Sync"
  address := r.address.orDefault ""
  space := r.space.orDefault ""
  defaultCheck := some (r.defaultCheck.getD {}).finalize

instance : Block Registration where
  name := "ServiceRegistrationConfig"
  blank := {}
  fields := [
    Field.of "enabled" enabled fun v b => { b with enabled := v },
    Field.of "service_name" serviceName fun v b => { b with serviceName := v },
    Field.of "address" address fun v b => { b with address := v },
    Field.of "namespace" space fun v b => { b with space := v },
    Field.of "default_check" defaultCheck fun v b => { b with defaultCheck := v }]

end Registration

end AutomationConfig
