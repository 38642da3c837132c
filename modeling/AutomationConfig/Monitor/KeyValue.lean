import AutomationConfig.Schema
import AutomationConfig.Setting
import AutomationConfig.Violation

/-! # Monitors of keys

Watches a key of Consul, or all keys below a path. -/

namespace AutomationConfig

/-- A monitor of a key. -/
structure KeyValueMonitor where
  path : Setting String := none
  recurse : Setting Bool := none
  datacenter : Setting String := none
  space : Setting String := none
deriving DecidableEq, Inhabited

namespace KeyValueMonitor

/-- The later of the settings of two fragments. -/
def merge (base other : KeyValueMonitor) : KeyValueMonitor where
  path := base.path.merge other.path
  recurse := base.recurse.merge other.recurse
  datacenter := base.datacenter.merge other.datacenter
  space := base.space.merge other.space

/-- The block with its defaults filled in. -/
def finalize (m : KeyValueMonitor) : KeyValueMonitor where
  path := m.path.orDefault ""
  recurse := m.recurse.orDefault false
  datacenter := m.datacenter.orDefault ""
  space := m.space.orDefault ""

/-- There is a path. -/
def check (m : KeyValueMonitor) : Except Violation Unit := require m.path.isGiven .keyPathMissing

instance : Block KeyValueMonitor where
  name := "ConsulKvMonitorConfig"
  blank := {}
  fields := [
    Field.of "path" path fun v b => { b with path := v },
    Field.of "recurse" recurse fun v b => { b with recurse := v },
    Field.of "datacenter" datacenter fun v b => { b with datacenter := v },
    Field.of "namespace" space fun v b => { b with space := v }]

end KeyValueMonitor

end AutomationConfig
