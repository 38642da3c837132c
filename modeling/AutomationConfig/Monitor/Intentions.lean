import AutomationConfig.Monitor.Selection
import AutomationConfig.Schema
import AutomationConfig.Setting

/-! # Monitors of intentions

Watches the intentions from a set of source services to a set of destination services. -/

namespace AutomationConfig

/-- One side of an intention: services selected by a pattern or by name. -/
structure IntentionSide where
  pattern : Setting String := none
  names : List String := []
deriving DecidableEq, Inhabited

namespace IntentionSide

/-- The later of the settings of two fragments; names add up. -/
def merge (base other : IntentionSide) : IntentionSide where
  pattern := base.pattern.merge other.pattern
  names := base.names ++ other.names

/-- Services are selected in exactly one way. -/
def check (name : String) (s : IntentionSide) : Except Violation Unit :=
  checkSelection "intentions" (name ++ " regexp") (name ++ " names") (.sideSelectedTwice name)
    (.sideNotSelected name) s.pattern s.names

instance : Block IntentionSide where
  name := "IntentionsServicesConfig"
  blank := {}
  fields := [
    Field.of "regexp" pattern fun v b => { b with pattern := v },
    (Field.of "names" names fun v b => { b with names := v }).optional]

end IntentionSide

/-- A monitor of intentions. -/
structure IntentionsMonitor where
  datacenter : Setting String := none
  space : Setting String := none
  source : Option IntentionSide := none
  destination : Option IntentionSide := none
deriving DecidableEq, Inhabited

namespace IntentionsMonitor

/-- The later of the settings of two fragments. -/
def merge (base other : IntentionsMonitor) : IntentionsMonitor where
  datacenter := base.datacenter.merge other.datacenter
  space := base.space.merge other.space
  source := base.source.merge IntentionSide.merge other.source
  destination := base.destination.merge IntentionSide.merge other.destination

/-- The block with its defaults filled in. -/
def finalize (m : IntentionsMonitor) : IntentionsMonitor := { m with
  datacenter := m.datacenter.orDefault ""
  space := m.space.orDefault "" }

/-- Both sides are given, and services are selected on both. -/
def check (m : IntentionsMonitor) : Except Violation Unit :=
  match m.source, m.destination with
  | none, _ => .error (.sideMissing "source_services")
  | some _, none => .error (.sideMissing "destination_services")
  | some source, some destination => do
    source.check "source_services"
    destination.check "destination_services"

instance : Block IntentionsMonitor where
  name := "IntentionsMonitorConfig"
  blank := {}
  fields := [
    Field.of "datacenter" datacenter fun v b => { b with datacenter := v },
    Field.of "namespace" space fun v b => { b with space := v },
    Field.of "source_services" source fun v b => { b with source := v },
    Field.of "destination_services" destination fun v b => { b with destination := v }]

end IntentionsMonitor

end AutomationConfig
