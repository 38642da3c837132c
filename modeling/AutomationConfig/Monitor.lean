import AutomationConfig.Monitor.CatalogServices
import AutomationConfig.Monitor.Intentions
import AutomationConfig.Monitor.KeyValue
import AutomationConfig.Monitor.Schedule
import AutomationConfig.Monitor.Services

/-! # Monitors

A monitor is a block of one of five kinds, or none. In a document it is a map whose one entry has
the name of the kind and the body of the block. -/

namespace AutomationConfig

/-- What is watched. -/
inductive Monitor where
  | none
  | services (m : ServicesMonitor)
  | catalogServices (m : CatalogServicesMonitor)
  | consulKv (m : KeyValueMonitor)
  | schedule (m : ScheduleMonitor)
  | intentions (m : IntentionsMonitor)
deriving DecidableEq, Inhabited

namespace Monitor

/-- The kind of a monitor. -/
def kind? : Monitor → Option MonitorKind
  | none => .none
  | services _ => some .services
  | catalogServices _ => some .catalogServices
  | consulKv _ => some .consulKv
  | schedule _ => some .schedule
  | intentions _ => some .intentions

/-- The type of the variables that a monitor feeds; empty if nothing is watched. -/
def variableType (m : Monitor) : String := (m.kind?.map MonitorKind.name).getD ""

/-- Whether nothing is watched. -/
def isNone (m : Monitor) : Bool := m.kind?.isNone

/-- Whether a condition with this monitor can hand what it watches to the module of its task. -/
def feedsModule (m : Monitor) : Bool := m.kind?.any MonitorKind.feedsModule

/-- Monitors of one kind are merged field by field; a monitor of another kind replaces the earlier
one. -/
def merge : Monitor → Monitor → Monitor
  | base, none => base
  | services a, services b => services (a.merge b)
  | catalogServices a, catalogServices b => catalogServices (a.merge b)
  | consulKv a, consulKv b => consulKv (a.merge b)
  | schedule a, schedule b => schedule (a.merge b)
  | intentions a, intentions b => intentions (a.merge b)
  | _, other => other

/-- The monitor with its defaults filled in. -/
def finalize : Monitor → Monitor
  | none => none
  | services m => services m.finalize
  | catalogServices m => catalogServices m.finalize
  | consulKv m => consulKv m.finalize
  | schedule m => schedule m.finalize
  | intentions m => intentions m.finalize

/-- The monitor with what validation settles. -/
def settle : Monitor → Monitor
  | catalogServices m => catalogServices m.settle
  | m => m

/-- The rules for a monitor. -/
def check : Monitor → Except Violation Unit
  | none => .ok ()
  | services m => m.check
  | catalogServices m => m.check
  | consulKv m => m.check
  | schedule m => m.check
  | intentions m => m.check

/-- Settles a monitor and checks it. -/
def validate (m : Monitor) : Checked Monitor := ⟨m.settle, m.check⟩

/-! ### Reading -/

/-- The entries of a document. -/
abbrev Entries := List (String × Document)

/-- The name and the body of a typed block. The body may be left empty, or be the one item of a
list. -/
def splitTyped (owner : String) : Document → Except Mismatch (String × Entries)
  | .map [(type, .map body)] => .ok (type, body)
  | .map [(type, .null)] => .ok (type, [])
  | .map [(type, .list [.map body])] => .ok (type, body)
  | .map [(type, .list [_])] => .error (.bodyNotMap owner type)
  | .map [(type, .list items)] => .error (.bodyCount owner type items.length)
  | .map [(type, _)] => .error (.bodyNotMap owner type)
  | .map entries => .error (.typeCount owner (entries.map (·.1)))
  | _ => .error (.untypedBlock owner)

/-- Reads the body of a monitor of a kind. -/
def readKind (kind : MonitorKind) (body : Document) : Except Mismatch Monitor :=
  match kind with
  | .services => services <$> read body
  | .catalogServices => catalogServices <$> read body
  | .consulKv => consulKv <$> read body
  | .schedule => schedule <$> read body
  | .intentions => intentions <$> read body

/-- Reads the body of a monitor whose kind is among the allowed ones. -/
def readBody (owner : String) (allowed : List MonitorKind) (type : String) (body : Entries) :
    Except Mismatch Monitor :=
  match allowed.find? fun kind => kind.name == type with
  | .none => .error (.unsupportedType owner type (allowed.map MonitorKind.name))
  | some kind => (readKind kind (.map body)).mapError (.inBody owner type)

/-! ### Outline -/

instance : Outlined Monitor :=
  ⟨fun
    | none => .word "None"
    | services m => .apply "Services" [outline m]
    | catalogServices m => .apply "CatalogServices" [outline m]
    | consulKv m => .apply "ConsulKv" [outline m]
    | schedule m => .apply "Schedule" [outline m]
    | intentions m => .apply "Intentions" [outline m]⟩

end Monitor

end AutomationConfig
