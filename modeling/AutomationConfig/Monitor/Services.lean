import AutomationConfig.Monitor.Selection
import AutomationConfig.Schema
import AutomationConfig.Setting

/-! # Monitors of services

Watches the instances of services that are selected by a pattern or by name. The pattern has no
default: unset means that names select, and the empty pattern is a pattern. -/

namespace AutomationConfig

/-- A monitor of the instances of services. -/
structure ServicesMonitor where
  pattern : Setting String := none
  names : List String := []
  datacenter : Setting String := none
  space : Setting String := none
  filter : Setting String := none
  userMeta : Table String := .empty
deriving DecidableEq, Inhabited

namespace ServicesMonitor

/-- The later of the settings of two fragments; names add up. -/
def merge (base other : ServicesMonitor) : ServicesMonitor where
  pattern := base.pattern.merge other.pattern
  names := base.names ++ other.names
  datacenter := base.datacenter.merge other.datacenter
  space := base.space.merge other.space
  filter := base.filter.merge other.filter
  userMeta := base.userMeta.merge other.userMeta

/-- The block with its defaults filled in. -/
def finalize (m : ServicesMonitor) : ServicesMonitor := { m with
  datacenter := m.datacenter.orDefault ""
  space := m.space.orDefault ""
  filter := m.filter.orDefault "" }

/-- Services are selected in exactly one way. -/
def check (m : ServicesMonitor) : Except Violation Unit :=
  checkSelection "services" "regexp" "names" .servicesSelectedTwice .servicesNotSelected
    m.pattern m.names

instance : Block ServicesMonitor where
  name := "ServicesMonitorConfig"
  blank := {}
  fields := [
    Field.of "regexp" pattern fun v b => { b with pattern := v },
    (Field.of "names" names fun v b => { b with names := v }).optional,
    Field.of "datacenter" datacenter fun v b => { b with datacenter := v },
    Field.of "namespace" space fun v b => { b with space := v },
    Field.of "filter" filter fun v b => { b with filter := v },
    (Field.of "cts_user_defined_meta" userMeta fun v b => { b with userMeta := v }).optional]

end ServicesMonitor

end AutomationConfig
