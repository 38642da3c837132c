import AutomationConfig.Schema
import AutomationConfig.Setting

/-! # Syslog

Whether and how the daemon forwards its log to syslog. -/

namespace AutomationConfig

/-- Forwarding to syslog. -/
structure Syslog where
  enabled : Setting Bool := none
  facility : Setting String := none
  name : Setting String := none
deriving DecidableEq, Inhabited

namespace Syslog

/-- The later of the settings of two fragments. -/
def merge (base other : Syslog) : Syslog where
  enabled := base.enabled.merge other.enabled
  facility := base.facility.merge other.facility
  name := base.name.merge other.name

/-- The block with its defaults filled in. -/
def finalize (s : Syslog) : Syslog where
  enabled := s.enabled.orDefault false
  facility := s.facility.orDefault "local0"
  name := s.name.orDefault "consul-terraform-sync"

instance : Block Syslog where
  name := "SyslogConfig"
  blank := {}
  fields := [
    Field.of "enabled" enabled fun v b => { b with enabled := v },
    Field.of "facility" facility fun v b => { b with facility := v },
    Field.of "name" Syslog.name fun v b => { b with name := v }]

end Syslog

end AutomationConfig
