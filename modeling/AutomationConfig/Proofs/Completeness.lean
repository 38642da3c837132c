import AutomationConfig.Proofs.Defaults

/-! # What defaults leave unset

After the defaults have been filled in, a block is there and its settings are set, all the way down:
`Filled` says so of every kind of block, of the items of the lists as well. What may still be unset
is what is left out there. These are patterns, where unset says that services are selected by name,
the sides of intentions, and the flag of conditions that hand nothing to the module. The fields of a
task that have moved are gone (`Config.finalize_fills_all`). -/

namespace AutomationConfig

/-! ### The daemon -/

/-- All settings are set. -/
structure Syslog.Filled (s : Syslog) : Prop where
  enabled : s.enabled.isSome
  facility : s.facility.isSome
  name : s.name.isSome

theorem Syslog.filled_finalize (s : Syslog) : s.finalize.Filled := ⟨rfl, rfl, rfl⟩

/-- All settings are set. -/
structure ServerTls.Filled (t : ServerTls) : Prop where
  enabled : t.enabled.isSome
  cert : t.cert.isSome
  key : t.key.isSome
  verifyIncoming : t.verifyIncoming.isSome
  caCert : t.caCert.isSome
  caPath : t.caPath.isSome

theorem ServerTls.filled_finalize (t : ServerTls) : t.finalize.Filled :=
  ⟨rfl, rfl, rfl, rfl, rfl, rfl⟩

/-- All settings are set. -/
structure BufferPeriod.Filled (b : BufferPeriod) : Prop where
  enabled : b.enabled.isSome
  min : b.min.isSome
  max : b.max.isSome

theorem BufferPeriod.filled_finalize (b parent : BufferPeriod) : (b.finalize parent).Filled := by
  rcases finalize_cases b parent with h | ⟨lo, hi, h⟩
  · rw [h]
    exact ⟨rfl, rfl, rfl⟩
  · rw [h]
    exact ⟨rfl, rfl, rfl⟩

/-! ### Connections -/

/-- All settings are set. -/
structure Auth.Filled (a : Auth) : Prop where
  enabled : a.enabled.isSome
  username : a.username.isSome
  password : a.password.isSome

theorem Auth.filled_finalize (a : Auth) : a.finalize.Filled := ⟨rfl, rfl, rfl⟩

/-- All settings are set. -/
structure ClientTls.Filled (t : ClientTls) : Prop where
  caCert : t.caCert.isSome
  caPath : t.caPath.isSome
  cert : t.cert.isSome
  enabled : t.enabled.isSome
  key : t.key.isSome
  serverName : t.serverName.isSome
  verify : t.verify.isSome

theorem ClientTls.filled_finalize (t : ClientTls) : t.finalize.Filled :=
  ⟨rfl, rfl, rfl, rfl, rfl, rfl, rfl⟩

/-- All settings are set. -/
structure Transport.Filled (t : Transport) : Prop where
  dialKeepAlive : t.dialKeepAlive.isSome
  dialTimeout : t.dialTimeout.isSome
  disableKeepAlives : t.disableKeepAlives.isSome
  idleConnTimeout : t.idleConnTimeout.isSome
  maxIdleConns : t.maxIdleConns.isSome
  maxIdleConnsPerHost : t.maxIdleConnsPerHost.isSome
  tlsHandshakeTimeout : t.tlsHandshakeTimeout.isSome

theorem Transport.filled_finalize (t : Transport) (processors : UInt64) :
    (t.finalize processors).Filled :=
  ⟨rfl, rfl, rfl, rfl, rfl, rfl, rfl⟩

/-- All settings are set. -/
structure DefaultCheck.Filled (c : DefaultCheck) : Prop where
  enabled : c.enabled.isSome
  address : c.address.isSome

theorem DefaultCheck.filled_finalize (c : DefaultCheck) : c.finalize.Filled := ⟨rfl, rfl⟩

/-- All settings are set, and the block inside is there. -/
structure Registration.Filled (r : Registration) : Prop where
  enabled : r.enabled.isSome
  serviceName : r.serviceName.isSome
  address : r.address.isSome
  space : r.space.isSome
  defaultCheck : ∃ c ∈ r.defaultCheck, c.Filled

theorem Registration.filled_finalize (r : Registration) : r.finalize.Filled where
  enabled := rfl
  serviceName := rfl
  address := rfl
  space := rfl
  defaultCheck := ⟨_, rfl, DefaultCheck.filled_finalize _⟩

/-- All settings are set, and the blocks inside are there. -/
structure Consul.Filled (c : Consul) : Prop where
  address : c.address.isSome
  auth : ∃ a ∈ c.auth, a.Filled
  kvNamespace : c.kvNamespace.isSome
  kvPath : c.kvPath.isSome
  tls : ∃ t ∈ c.tls, t.Filled
  token : c.token.isSome
  transport : ∃ t ∈ c.transport, t.Filled
  registration : ∃ r ∈ c.registration, r.Filled

theorem Consul.filled_finalize (c : Consul) (processors : UInt64) :
    (c.finalize processors).Filled where
  address := rfl
  auth := ⟨_, rfl, Auth.filled_finalize _⟩
  kvNamespace := rfl
  kvPath := rfl
  tls := ⟨_, rfl, ClientTls.filled_finalize _⟩
  token := rfl
  transport := ⟨_, rfl, Transport.filled_finalize _ processors⟩
  registration := ⟨_, rfl, Registration.filled_finalize _⟩

/-- All settings are set, and the blocks inside are there. -/
structure Vault.Filled (v : Vault) : Prop where
  address : v.address.isSome
  enabled : v.enabled.isSome
  space : v.space.isSome
  renewToken : v.renewToken.isSome
  tls : ∃ t ∈ v.tls, t.Filled
  token : v.token.isSome
  unwrapToken : v.unwrapToken.isSome
  transport : ∃ t ∈ v.transport, t.Filled

theorem Vault.filled_finalize (v : Vault) (processors : UInt64) :
    (v.finalize processors).Filled where
  address := rfl
  enabled := rfl
  space := rfl
  renewToken := rfl
  tls := ⟨_, rfl, ClientTls.filled_finalize _⟩
  token := rfl
  unwrapToken := rfl
  transport := ⟨_, rfl, Transport.filled_finalize _ processors⟩

/-! ### The driver -/

/-- All settings are set, and there is a backend. -/
structure Terraform.Filled (t : Terraform) : Prop where
  version : t.version.isSome
  log : t.log.isSome
  persistLog : t.persistLog.isSome
  path : t.path.isSome
  backend : t.backend.entries ≠ []

theorem Terraform.filled_finalize (t : Terraform) (consul : Consul) :
    (t.finalize consul).Filled where
  version := rfl
  log := rfl
  persistLog := rfl
  path := rfl
  backend := List.isEmpty_eq_false_iff.mp (t.isEmpty_backend_finalize consul)

/-- The block for Terraform is there. -/
structure Driver.Filled (d : Driver) : Prop where
  terraform : ∃ t ∈ d.terraform, t.Filled

theorem Driver.filled_finalize (d : Driver) (consul : Consul) : (d.finalize consul).Filled where
  terraform := ⟨_, rfl, Terraform.filled_finalize _ consul⟩

/-! ### Monitors -/

/-- All settings but the pattern are set. -/
structure ServicesMonitor.Filled (m : ServicesMonitor) : Prop where
  datacenter : m.datacenter.isSome
  space : m.space.isSome
  filter : m.filter.isSome

/-- All settings but the pattern are set. -/
structure CatalogServicesMonitor.Filled (m : CatalogServicesMonitor) : Prop where
  datacenter : m.datacenter.isSome
  space : m.space.isSome

/-- All settings are set. -/
structure KeyValueMonitor.Filled (m : KeyValueMonitor) : Prop where
  path : m.path.isSome
  recurse : m.recurse.isSome
  datacenter : m.datacenter.isSome
  space : m.space.isSome

/-- The setting is set. -/
structure ScheduleMonitor.Filled (m : ScheduleMonitor) : Prop where
  cron : m.cron.isSome

/-- All settings are set. The sides may be missing, and the pattern of a side unset. -/
structure IntentionsMonitor.Filled (m : IntentionsMonitor) : Prop where
  datacenter : m.datacenter.isSome
  space : m.space.isSome

/-- A monitor is filled if its block is. -/
def Monitor.Filled : Monitor → Prop
  | none => True
  | services m => m.Filled
  | catalogServices m => m.Filled
  | consulKv m => m.Filled
  | schedule m => m.Filled
  | intentions m => m.Filled

theorem Monitor.filled_finalize (m : Monitor) : m.finalize.Filled := by
  cases m with
  | none => trivial
  | services m => exact ⟨rfl, rfl, rfl⟩
  | catalogServices m => exact ⟨rfl, rfl⟩
  | consulKv m => exact ⟨rfl, rfl, rfl, rfl⟩
  | schedule m => exact ⟨rfl⟩
  | intentions m => exact ⟨rfl, rfl⟩

/-! ### Tasks and services -/

/-- The monitor of a condition is filled. A pattern for the catalog is set if the task lists
services, and conditions on services, the catalog or keys say whether they feed the module, by the
flag that counts alone. -/
structure Condition.Filled (services : List String) (c : Condition) : Prop where
  monitor : c.monitor.Filled
  pattern : services ≠ [] → ∀ m, c.monitor = .catalogServices m → m.pattern.isSome
  flag : ∀ kind ∈ [MonitorKind.services, .catalogServices, .consulKv],
    c.monitor.kind? = some kind → c.useAsModuleInput.isSome ∧ c.sourceIncludesVar = none

namespace Task

theorem filled_derivePattern (services : List String) {m : Monitor} (h : m.Filled) :
    (derivePattern services m).Filled := by
  cases m with
  | catalogServices m =>
    rw [derivePattern]
    split
    next => exact ⟨h.datacenter, h.space⟩
    next => exact h
  | _ => exact h

/-- A pattern for the catalog is set where there are services to derive it from. -/
theorem isSome_pattern_derivePattern {services : List String} (hservices : services ≠ [])
    {m : Monitor} {derived : CatalogServicesMonitor}
    (h : derivePattern services m = .catalogServices derived) : derived.pattern.isSome := by
  cases m with
  | catalogServices m =>
    cases hpattern : m.pattern with
    | none =>
      rw [derivePattern, if_pos (by simp [hpattern, hservices])] at h
      rw [← Monitor.catalogServices.inj h]
      rfl
    | some pattern =>
      rw [derivePattern, if_neg (by simp [hpattern])] at h
      rw [← Monitor.catalogServices.inj h, hpattern]
      rfl
  | _ => simp [derivePattern] at h

theorem filled_finalizeCondition (t : Task) : t.finalizeCondition.Filled t.services where
  monitor := by
    change (derivePattern t.services t.condition.finalize.monitor).Filled
    rw [Condition.monitor_finalize]
    exact filled_derivePattern t.services t.condition.monitor.filled_finalize
  pattern := fun hservices _ hm => isSome_pattern_derivePattern hservices hm
  flag := fun kind hkind hmonitor => by
    have hkinds : ∀ kind ∈ [MonitorKind.services, .catalogServices, .consulKv],
        kind.feedsModule = true := by decide
    have hfeeds : t.finalizeCondition.monitor.feedsModule = true := by
      rw [Monitor.feedsModule, hmonitor]
      exact hkinds kind hkind
    exact ⟨Option.isSome_iff_ne_none.mpr (t.isComplete_finalizeCondition.flag hfeeds),
      t.isComplete_finalizeCondition.moved hfeeds⟩

/-- All settings of a task are set, its buffer period is there, its condition and inputs are filled,
and nothing is left where fields have moved from. -/
structure Filled (t : Task) : Prop where
  name : t.name.isSome
  description : t.description.isSome
  module : t.module.isSome
  version : t.version.isSome
  bufferPeriod : ∃ b ∈ t.bufferPeriod, b.Filled
  enabled : t.enabled.isSome
  condition : t.condition.Filled t.services
  moduleInputs : ∀ i ∈ t.moduleInputs.items, i.monitor.Filled
  workingDir : t.workingDir.isSome
  source : t.source = none
  sourceInputs : t.sourceInputs.items = []

theorem filled_finalizeBufferPeriod (t : Task) (global : BufferPeriod) :
    (t.finalizeBufferPeriod global).Filled := by
  unfold finalizeBufferPeriod
  split
  next => exact ⟨rfl, rfl, rfl⟩
  next => exact BufferPeriod.filled_finalize _ _

theorem filled_finalize (t : Task) (global : BufferPeriod) (root : String) :
    (t.finalize global root).Filled where
  name := rfl
  description := rfl
  module := rfl
  version := rfl
  bufferPeriod := ⟨_, rfl, t.filled_finalizeBufferPeriod global⟩
  enabled := rfl
  condition := t.filled_finalizeCondition
  moduleInputs := fun i hi => by
    obtain ⟨given, -, rfl⟩ := List.mem_map.mp hi
    exact given.monitor.filled_finalize
  workingDir := rfl
  source := rfl
  sourceInputs := rfl

end Task

/-- All settings are set. -/
structure Service.Filled (s : Service) : Prop where
  datacenter : s.datacenter.isSome
  description : s.description.isSome
  id : s.id.isSome
  name : s.name.isSome
  space : s.space.isSome
  filter : s.filter.isSome

theorem Service.filled_finalize (s : Service) : s.finalize.Filled :=
  ⟨rfl, rfl, rfl, rfl, rfl, rfl⟩

/-! ### The whole configuration -/

namespace Config

/-- All settings are set, all blocks are there, and they and the items of the lists are filled. -/
structure Filled (c : Config) : Prop where
  port : c.port.isSome
  id : c.id.isSome
  logLevel : c.logLevel.isSome
  clientType : c.clientType.isSome
  workingDir : c.workingDir.isSome
  syslog : ∃ s ∈ c.syslog, s.Filled
  consul : ∃ b ∈ c.consul, b.Filled
  vault : ∃ v ∈ c.vault, v.Filled
  driver : ∃ d ∈ c.driver, d.Filled
  tasks : ∀ t ∈ c.tasks, t.Filled
  services : ∀ s ∈ c.services, s.Filled
  bufferPeriod : ∃ b ∈ c.bufferPeriod, b.Filled
  tls : ∃ t ∈ c.tls, t.Filled

/-- **Filling in defaults leaves nothing out**: every block and every setting is there, but for
those that may stay unset. -/
theorem finalize_fills_all (c : Config) (processors : UInt64) :
    (c.finalize processors).Filled where
  port := rfl
  id := rfl
  logLevel := rfl
  clientType := rfl
  workingDir := rfl
  syslog := ⟨_, rfl, Syslog.filled_finalize _⟩
  consul := ⟨_, rfl, Consul.filled_finalize _ processors⟩
  vault := ⟨_, rfl, Vault.filled_finalize _ processors⟩
  driver := ⟨_, rfl, Driver.filled_finalize _ _⟩
  tasks := fun t ht => by
    obtain ⟨given, -, rfl⟩ := List.mem_map.mp ht
    exact given.filled_finalize _ _
  services := fun s hs => by
    obtain ⟨given, -, rfl⟩ := List.mem_map.mp hs
    exact given.filled_finalize
  bufferPeriod := ⟨_, rfl, BufferPeriod.filled_finalize _ _⟩
  tls := ⟨_, rfl, ServerTls.filled_finalize _⟩

end Config

end AutomationConfig
