import AutomationConfig.Monitor.Selection
import AutomationConfig.Schema
import AutomationConfig.Setting

/-! # Monitors of the catalog

Watches the set of registered services. Defaults leave the pattern unset, so that a task can still
derive it from its list of services; validation settles a pattern that is unset even then as the
empty one, which selects everything. -/

namespace AutomationConfig

/-- A monitor of the set of registered services. -/
structure CatalogServicesMonitor where
  pattern : Setting String := none
  datacenter : Setting String := none
  space : Setting String := none
  nodeMeta : Table String := .empty
deriving DecidableEq, Inhabited

namespace CatalogServicesMonitor

/-- The later of the settings of two fragments. -/
def merge (base other : CatalogServicesMonitor) : CatalogServicesMonitor where
  pattern := base.pattern.merge other.pattern
  datacenter := base.datacenter.merge other.datacenter
  space := base.space.merge other.space
  nodeMeta := base.nodeMeta.merge other.nodeMeta

/-- The block with its defaults filled in. -/
def finalize (m : CatalogServicesMonitor) : CatalogServicesMonitor := { m with
  datacenter := m.datacenter.orDefault ""
  space := m.space.orDefault "" }

/-- The block with a pattern. -/
def settle (m : CatalogServicesMonitor) : CatalogServicesMonitor :=
  { m with pattern := m.pattern.orDefault "" }

/-- The pattern can be compiled. -/
def check (m : CatalogServicesMonitor) : Except Violation Unit :=
  checkPattern "catalog-services" "regexp" m.pattern.value

instance : Block CatalogServicesMonitor where
  name := "CatalogServicesMonitorConfig"
  blank := {}
  fields := [
    Field.of "regexp" pattern fun v b => { b with pattern := v },
    Field.of "datacenter" datacenter fun v b => { b with datacenter := v },
    Field.of "namespace" space fun v b => { b with space := v },
    (Field.of "node_meta" nodeMeta fun v b => { b with nodeMeta := v }).optional]

end CatalogServicesMonitor

end AutomationConfig
