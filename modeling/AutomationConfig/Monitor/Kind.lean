/-! # Kinds of monitors

A monitor watches objects of one kind. The name of the kind is the name of its block, and also the
type of the variables that it feeds. -/

namespace AutomationConfig

/-- What a monitor watches. -/
inductive MonitorKind where
  /-- Instances of services. -/
  | services
  /-- The set of registered services. -/
  | catalogServices
  /-- A key, or the keys below a path. -/
  | consulKv
  /-- The clock. -/
  | schedule
  /-- Intentions between services. -/
  | intentions
deriving DecidableEq, Repr, Inhabited

namespace MonitorKind

/-- The name of a kind. -/
def name : MonitorKind → String
  | services => "services"
  | catalogServices => "catalog-services"
  | consulKv => "consul-kv"
  | schedule => "schedule"
  | intentions => "intentions"

theorem name_inj {a b : MonitorKind} (h : a.name = b.name) : a = b := by
  cases a <;> cases b <;> simp_all [name]

/-- Whether a condition on objects of the kind can hand them to the module of its task. -/
def feedsModule : MonitorKind → Bool
  | services | catalogServices | consulKv => true
  | schedule | intentions => false

end MonitorKind

end AutomationConfig
