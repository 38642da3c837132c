import AutomationConfig.Config
import AutomationConfig.Proofs.Modernizing
import Mathlib.Data.List.Forall2

/-! # What defaults leave alone

Filling in defaults sets what is unset and keeps what is set, a setting that is set to nothing as
well as any other. `Kept` says so of every kind of block: it relates a block to the same block with
its defaults, setting by setting, and maps and lists keep their entries in place
(`Config.finalize_only_fills`).

The exceptions stand where they belong. A buffer period that is switched off loses its bounds
(`BufferPeriod.Kept`), the earlier flag of a condition is cleared where a later one has taken its
place (`Condition.Kept`), and of a task the source and the source inputs are cleared, an empty
module gives way to a source, and a schedule has its own buffer period (`Task.Kept`). -/

namespace AutomationConfig

section Kept

variable {α : Type}

/-- A setting that is set has the same value afterwards. -/
def Setting.Kept (before after : Setting α) : Prop := ∀ a, before = some a → after = some a

/-- A block that is there is still there, and kept. -/
def BlockKept (kept : α → α → Prop) (before after : Option α) : Prop :=
  ∀ a, before = some a → ∃ b, after = some b ∧ kept a b

namespace Setting

theorem kept_self (s : Setting α) : s.Kept s := fun _ h => h

theorem kept_orDefault (s : Setting α) (default : α) : s.Kept (s.orDefault default) :=
  fun a h => by rw [h, orDefault_some]

theorem Kept.trans {a b c : Setting α} (hab : a.Kept b) (hbc : b.Kept c) : a.Kept c :=
  fun v h => hbc v (hab v h)

/-- Nothing is lost of the later of two settings. -/
theorem kept_merge (base s : Setting α) : s.Kept (base.merge s) :=
  fun a h => by rw [h]; rfl

end Setting

theorem blockKept_getD {kept : α → α → Prop} {f : α → α} (h : ∀ a, kept a (f a)) (o : Option α)
    (default : α) : BlockKept kept o (some (f (o.getD default))) :=
  fun a ho => ⟨f a, by rw [ho, Option.getD_some], h a⟩

theorem forall₂_map {kept : α → α → Prop} {f : α → α} (h : ∀ a, kept a (f a)) (as : List α) :
    List.Forall₂ kept as (as.map f) :=
  List.forall₂_map_right_iff.mpr (List.forall₂_same.mpr fun a _ => h a)

end Kept

/-! ### The daemon -/

/-- Every setting is kept. -/
structure Syslog.Kept (before after : Syslog) : Prop where
  enabled : before.enabled.Kept after.enabled
  facility : before.facility.Kept after.facility
  name : before.name.Kept after.name

theorem Syslog.kept_finalize (s : Syslog) : s.Kept s.finalize where
  enabled := Setting.kept_orDefault _ _
  facility := Setting.kept_orDefault _ _
  name := Setting.kept_orDefault _ _

/-- Every setting is kept. -/
structure ServerTls.Kept (before after : ServerTls) : Prop where
  enabled : before.enabled.Kept after.enabled
  cert : before.cert.Kept after.cert
  key : before.key.Kept after.key
  verifyIncoming : before.verifyIncoming.Kept after.verifyIncoming
  caCert : before.caCert.Kept after.caCert
  caPath : before.caPath.Kept after.caPath

theorem ServerTls.kept_finalize (t : ServerTls) : t.Kept t.finalize where
  enabled := Setting.kept_orDefault _ _
  cert := Setting.kept_orDefault _ _
  key := Setting.kept_orDefault _ _
  verifyIncoming := Setting.kept_orDefault _ _
  caCert := Setting.kept_orDefault _ _
  caPath := Setting.kept_orDefault _ _

/-- Whether the period is enabled is kept where it is said, and the bounds are kept unless it is
said that it is not. A period that turns out not to be enabled has no bounds but zero. -/
structure BufferPeriod.Kept (before after : BufferPeriod) : Prop where
  enabled : before.enabled.Kept after.enabled
  min : before.enabled ≠ some false → before.min.Kept after.min
  max : before.enabled ≠ some false → before.max.Kept after.max
  disabled : after.enabled = some false → after.min = some .zero ∧ after.max = some .zero

namespace BufferPeriod

/-- A period that is not switched off and still not enabled has no bounds to lose. -/
theorem eq_none_of_resolvesEnabled {b parent : BufferPeriod} (hb : b.enabled ≠ some false)
    (h : b.resolvesEnabled parent = false) : b.min = none ∧ b.max = none := by
  unfold resolvesEnabled at h
  cases henabled : b.enabled with
  | some enabled =>
    rw [henabled, Option.getD_some] at h
    exact absurd (henabled.trans (congrArg some h)) hb
  | none =>
    rw [henabled, Option.getD_none] at h
    split at h
    next hunbounded => simpa [isUnbounded] using hunbounded
    next => exact nomatch h

theorem kept_inheritBounds {b parent : BufferPeriod} (h : b.resolvesEnabled parent = true) :
    b.Kept (b.inheritBounds parent) where
  enabled := fun enabled hb => by
    rw [resolvesEnabled, hb, Option.getD_some] at h
    rw [h]
    rfl
  min := fun _ => Setting.kept_orDefault _ _
  max := fun _ => Setting.kept_orDefault _ _
  disabled := fun hoff => nomatch hoff

theorem kept_disabled {b parent : BufferPeriod} (h : b.resolvesEnabled parent = false) :
    b.Kept disabled where
  enabled := fun enabled hb => by
    rw [resolvesEnabled, hb, Option.getD_some] at h
    rw [h]
    rfl
  min := fun hb lo hlo => by
    rw [(eq_none_of_resolvesEnabled hb h).1] at hlo
    exact nomatch hlo
  max := fun hb hi hhi => by
    rw [(eq_none_of_resolvesEnabled hb h).2] at hhi
    exact nomatch hhi
  disabled := fun _ => ⟨rfl, rfl⟩

theorem kept_finalize (parent b : BufferPeriod) : b.Kept (b.finalize parent) := by
  unfold finalize
  split
  next h => exact kept_inheritBounds h
  next h => exact kept_disabled (Bool.eq_false_iff.mpr h)

end BufferPeriod

/-! ### Connections -/

/-- Every setting is kept. -/
structure Auth.Kept (before after : Auth) : Prop where
  enabled : before.enabled.Kept after.enabled
  username : before.username.Kept after.username
  password : before.password.Kept after.password

theorem Auth.kept_finalize (a : Auth) : a.Kept a.finalize where
  enabled := Setting.kept_orDefault _ _
  username := Setting.kept_orDefault _ _
  password := Setting.kept_orDefault _ _

/-- Every setting is kept. -/
structure ClientTls.Kept (before after : ClientTls) : Prop where
  caCert : before.caCert.Kept after.caCert
  caPath : before.caPath.Kept after.caPath
  cert : before.cert.Kept after.cert
  enabled : before.enabled.Kept after.enabled
  key : before.key.Kept after.key
  serverName : before.serverName.Kept after.serverName
  verify : before.verify.Kept after.verify

theorem ClientTls.kept_finalize (t : ClientTls) : t.Kept t.finalize where
  caCert := Setting.kept_orDefault _ _
  caPath := Setting.kept_orDefault _ _
  cert := Setting.kept_orDefault _ _
  enabled := Setting.kept_orDefault _ _
  key := Setting.kept_orDefault _ _
  serverName := Setting.kept_orDefault _ _
  verify := Setting.kept_orDefault _ _

/-- Every setting is kept. -/
structure Transport.Kept (before after : Transport) : Prop where
  dialKeepAlive : before.dialKeepAlive.Kept after.dialKeepAlive
  dialTimeout : before.dialTimeout.Kept after.dialTimeout
  disableKeepAlives : before.disableKeepAlives.Kept after.disableKeepAlives
  idleConnTimeout : before.idleConnTimeout.Kept after.idleConnTimeout
  maxIdleConns : before.maxIdleConns.Kept after.maxIdleConns
  maxIdleConnsPerHost : before.maxIdleConnsPerHost.Kept after.maxIdleConnsPerHost
  tlsHandshakeTimeout : before.tlsHandshakeTimeout.Kept after.tlsHandshakeTimeout

theorem Transport.kept_finalize (processors : UInt64) (t : Transport) :
    t.Kept (t.finalize processors) where
  dialKeepAlive := Setting.kept_orDefault _ _
  dialTimeout := Setting.kept_orDefault _ _
  disableKeepAlives := Setting.kept_orDefault _ _
  idleConnTimeout := Setting.kept_orDefault _ _
  maxIdleConns := Setting.kept_orDefault _ _
  maxIdleConnsPerHost := Setting.kept_orDefault _ _
  tlsHandshakeTimeout := Setting.kept_orDefault _ _

/-- Every setting is kept. -/
structure DefaultCheck.Kept (before after : DefaultCheck) : Prop where
  enabled : before.enabled.Kept after.enabled
  address : before.address.Kept after.address

theorem DefaultCheck.kept_finalize (c : DefaultCheck) : c.Kept c.finalize where
  enabled := Setting.kept_orDefault _ _
  address := Setting.kept_orDefault _ _

/-- Every setting is kept, in the block inside as well. -/
structure Registration.Kept (before after : Registration) : Prop where
  enabled : before.enabled.Kept after.enabled
  serviceName : before.serviceName.Kept after.serviceName
  address : before.address.Kept after.address
  space : before.space.Kept after.space
  defaultCheck : BlockKept DefaultCheck.Kept before.defaultCheck after.defaultCheck

theorem Registration.kept_finalize (r : Registration) : r.Kept r.finalize where
  enabled := Setting.kept_orDefault _ _
  serviceName := Setting.kept_orDefault _ _
  address := Setting.kept_orDefault _ _
  space := Setting.kept_orDefault _ _
  defaultCheck := blockKept_getD DefaultCheck.kept_finalize _ _

/-- Every setting is kept, in the blocks inside as well. -/
structure Consul.Kept (before after : Consul) : Prop where
  address : before.address.Kept after.address
  auth : BlockKept Auth.Kept before.auth after.auth
  kvNamespace : before.kvNamespace.Kept after.kvNamespace
  kvPath : before.kvPath.Kept after.kvPath
  tls : BlockKept ClientTls.Kept before.tls after.tls
  token : before.token.Kept after.token
  transport : BlockKept Transport.Kept before.transport after.transport
  registration : BlockKept Registration.Kept before.registration after.registration

theorem Consul.kept_finalize (processors : UInt64) (c : Consul) :
    c.Kept (c.finalize processors) where
  address := Setting.kept_orDefault _ _
  auth := blockKept_getD Auth.kept_finalize _ _
  kvNamespace := Setting.kept_orDefault _ _
  kvPath := Setting.kept_orDefault _ _
  tls := blockKept_getD ClientTls.kept_finalize _ _
  token := Setting.kept_orDefault _ _
  transport := blockKept_getD (Transport.kept_finalize processors) _ _
  registration := blockKept_getD Registration.kept_finalize _ _

/-- Every setting is kept, in the blocks inside as well. -/
structure Vault.Kept (before after : Vault) : Prop where
  address : before.address.Kept after.address
  enabled : before.enabled.Kept after.enabled
  space : before.space.Kept after.space
  renewToken : before.renewToken.Kept after.renewToken
  tls : BlockKept ClientTls.Kept before.tls after.tls
  token : before.token.Kept after.token
  unwrapToken : before.unwrapToken.Kept after.unwrapToken
  transport : BlockKept Transport.Kept before.transport after.transport

theorem Vault.kept_finalize (processors : UInt64) (v : Vault) :
    v.Kept (v.finalize processors) where
  address := Setting.kept_orDefault _ _
  enabled := Setting.kept_orDefault _ _
  space := Setting.kept_orDefault _ _
  renewToken := Setting.kept_orDefault _ _
  tls := blockKept_getD ClientTls.kept_finalize _ _
  token := Setting.kept_orDefault _ _
  unwrapToken := Setting.kept_orDefault _ _
  transport := blockKept_getD (Transport.kept_finalize processors) _ _

/-! ### The driver -/

/-- Every setting is kept, and so are a backend that is not empty and the required providers. -/
structure Terraform.Kept (before after : Terraform) : Prop where
  version : before.version.Kept after.version
  log : before.log.Kept after.log
  persistLog : before.persistLog.Kept after.persistLog
  path : before.path.Kept after.path
  backend : before.backend.entries ≠ [] → after.backend = before.backend
  requiredProviders : after.requiredProviders = before.requiredProviders

theorem Terraform.kept_finalize (consul : Consul) (t : Terraform) :
    t.Kept (t.finalize consul) where
  version := Setting.kept_orDefault _ _
  log := Setting.kept_orDefault _ _
  persistLog := Setting.kept_orDefault _ _
  path := Setting.kept_orDefault _ _
  backend := fun hgiven => if_neg fun hempty => hgiven (List.isEmpty_iff.mp hempty)
  requiredProviders := rfl

/-- What is said of Terraform is kept. -/
structure Driver.Kept (before after : Driver) : Prop where
  terraform : BlockKept Terraform.Kept before.terraform after.terraform

theorem Driver.kept_finalize (consul : Consul) (d : Driver) : d.Kept (d.finalize consul) where
  terraform := blockKept_getD (Terraform.kept_finalize consul) _ _

/-! ### Monitors -/

/-- Every setting is kept, and so are the names and the metadata. -/
structure ServicesMonitor.Kept (before after : ServicesMonitor) : Prop where
  pattern : before.pattern.Kept after.pattern
  names : after.names = before.names
  datacenter : before.datacenter.Kept after.datacenter
  space : before.space.Kept after.space
  filter : before.filter.Kept after.filter
  userMeta : after.userMeta = before.userMeta

theorem ServicesMonitor.kept_finalize (m : ServicesMonitor) : m.Kept m.finalize where
  pattern := Setting.kept_self _
  names := rfl
  datacenter := Setting.kept_orDefault _ _
  space := Setting.kept_orDefault _ _
  filter := Setting.kept_orDefault _ _
  userMeta := rfl

/-- Every setting is kept, and so is the metadata. -/
structure CatalogServicesMonitor.Kept (before after : CatalogServicesMonitor) : Prop where
  pattern : before.pattern.Kept after.pattern
  datacenter : before.datacenter.Kept after.datacenter
  space : before.space.Kept after.space
  nodeMeta : after.nodeMeta = before.nodeMeta

theorem CatalogServicesMonitor.kept_finalize (m : CatalogServicesMonitor) : m.Kept m.finalize where
  pattern := Setting.kept_self _
  datacenter := Setting.kept_orDefault _ _
  space := Setting.kept_orDefault _ _
  nodeMeta := rfl

/-- Every setting is kept. -/
structure KeyValueMonitor.Kept (before after : KeyValueMonitor) : Prop where
  path : before.path.Kept after.path
  recurse : before.recurse.Kept after.recurse
  datacenter : before.datacenter.Kept after.datacenter
  space : before.space.Kept after.space

theorem KeyValueMonitor.kept_finalize (m : KeyValueMonitor) : m.Kept m.finalize where
  path := Setting.kept_orDefault _ _
  recurse := Setting.kept_orDefault _ _
  datacenter := Setting.kept_orDefault _ _
  space := Setting.kept_orDefault _ _

/-- The setting is kept. -/
structure ScheduleMonitor.Kept (before after : ScheduleMonitor) : Prop where
  cron : before.cron.Kept after.cron

theorem ScheduleMonitor.kept_finalize (m : ScheduleMonitor) : m.Kept m.finalize where
  cron := Setting.kept_orDefault _ _

/-- Every setting is kept, and the sides are as they were. -/
structure IntentionsMonitor.Kept (before after : IntentionsMonitor) : Prop where
  datacenter : before.datacenter.Kept after.datacenter
  space : before.space.Kept after.space
  source : after.source = before.source
  destination : after.destination = before.destination

theorem IntentionsMonitor.kept_finalize (m : IntentionsMonitor) : m.Kept m.finalize where
  datacenter := Setting.kept_orDefault _ _
  space := Setting.kept_orDefault _ _
  source := rfl
  destination := rfl

/-- A monitor is kept if it is of the same kind and its block is kept. -/
def Monitor.Kept : Monitor → Monitor → Prop
  | none, none => True
  | services a, services b => a.Kept b
  | catalogServices a, catalogServices b => a.Kept b
  | consulKv a, consulKv b => a.Kept b
  | schedule a, schedule b => a.Kept b
  | intentions a, intentions b => a.Kept b
  | _, _ => False

theorem Monitor.kept_finalize (m : Monitor) : m.Kept m.finalize := by
  cases m with
  | none => trivial
  | services m => exact m.kept_finalize
  | catalogServices m => exact m.kept_finalize
  | consulKv m => exact m.kept_finalize
  | schedule m => exact m.kept_finalize
  | intentions m => exact m.kept_finalize

/-! ### Conditions -/

/-- The monitor and the flag are kept. The earlier flag is cleared on services, the catalog and
keys, and stays as it was on anything else. -/
structure Condition.Kept (before after : Condition) : Prop where
  monitor : before.monitor.Kept after.monitor
  useAsModuleInput : before.useAsModuleInput.Kept after.useAsModuleInput
  cleared : ∀ kind ∈ [MonitorKind.services, .catalogServices, .consulKv],
    before.monitor.kind? = some kind → after.sourceIncludesVar = none
  stays : (∀ kind ∈ [MonitorKind.services, .catalogServices, .consulKv],
    before.monitor.kind? ≠ some kind) → after.sourceIncludesVar = before.sourceIncludesVar

namespace Condition

theorem feedsModule_iff {m : Monitor} : m.feedsModule = true ↔
    ∃ kind ∈ [MonitorKind.services, .catalogServices, .consulKv], m.kind? = some kind := by
  cases m <;> simp [Monitor.feedsModule, Monitor.kind?, MonitorKind.feedsModule]

theorem kept_finalize (c : Condition) : c.Kept c.finalize := by
  have hfeeds := feedsModule_iff (m := c.monitor)
  unfold finalize
  split
  next hmoved =>
    obtain ⟨kind, hkind, hmonitor⟩ := hfeeds.mp hmoved
    exact {
      monitor := c.monitor.kept_finalize
      useAsModuleInput := (Setting.kept_merge _ _).trans (Setting.kept_orDefault _ _)
      cleared := fun _ _ _ => rfl
      stays := fun hother => absurd hmonitor (hother kind hkind) }
  next hkept =>
    exact {
      monitor := c.monitor.kept_finalize
      useAsModuleInput := Setting.kept_self _
      cleared := fun kind hkind hmonitor => absurd (hfeeds.mpr ⟨kind, hkind, hmonitor⟩) hkept
      stays := fun _ => rfl }

end Condition

/-! ### Tasks and services -/

/-- Every setting of a task is kept, and so are its lists and its variables. The fields that have
moved are cleared: an empty module gives way to a source that is not empty, and the source inputs
come behind the module inputs. A schedule switches the buffer period off. -/
structure Task.Kept (before after : Task) : Prop where
  name : before.name.Kept after.name
  description : before.description.Kept after.description
  providers : after.providers = before.providers
  services : after.services = before.services
  module : ¬ (before.module = some "" ∧ before.source.value ≠ "") →
    before.module.Kept after.module
  moduleReplaced : before.module = some "" → before.source.value ≠ "" →
    after.module = before.source
  source : after.source = none
  version : before.version.Kept after.version
  moduleVariables : after.moduleVariables = before.moduleVariables
  varFiles : after.varFiles = before.varFiles
  bufferPeriod : (∀ m, before.condition.monitor ≠ .schedule m) →
    BlockKept BufferPeriod.Kept before.bufferPeriod after.bufferPeriod
  scheduled : ∀ m, before.condition.monitor = .schedule m → after.bufferPeriod = some .disabled
  enabled : before.enabled.Kept after.enabled
  condition : before.condition.Kept after.condition
  moduleInputs : ∃ front back, after.moduleInputs.items = front ++ back ∧
    List.Forall₂ (fun i j => i.monitor.Kept j.monitor) before.moduleInputs.items front ∧
    List.Forall₂ (fun i j => i.monitor.Kept j.monitor) before.sourceInputs.items back
  sourceInputs : after.sourceInputs.items = []
  workingDir : before.workingDir.Kept after.workingDir

namespace Task

/-- Deriving a pattern only sets one that is unset. -/
theorem kept_derivePattern (services : List String) {m n : Monitor} (h : m.Kept n) :
    m.Kept (derivePattern services n) := by
  cases n with
  | catalogServices n =>
    rw [derivePattern]
    split
    next hunset =>
      cases m with
      | catalogServices m =>
        have hpattern : n.pattern = none := by
          rw [Bool.and_eq_true, Option.isNone_iff_eq_none] at hunset
          exact hunset.1
        exact {
          pattern := fun p hp => by
            have hset := h.pattern p hp
            rw [hpattern] at hset
            exact nomatch hset
          datacenter := h.datacenter
          space := h.space
          nodeMeta := h.nodeMeta }
      | _ => exact h
    next => exact h
  | _ => exact h

theorem kept_finalizeCondition (t : Task) : t.condition.Kept t.finalizeCondition where
  monitor := kept_derivePattern t.services t.condition.kept_finalize.monitor
  useAsModuleInput := t.condition.kept_finalize.useAsModuleInput
  cleared := t.condition.kept_finalize.cleared
  stays := t.condition.kept_finalize.stays

theorem kept_effectiveModule {t : Task} (h : ¬ (t.module = some "" ∧ t.source.value ≠ "")) :
    t.module.Kept (t.effectiveModule.orDefault "") := by
  intro m hm
  rw [effectiveModule_eq, modernModule]
  split
  next htaken =>
    -- a module that is set and counts for nothing is the empty one
    have hempty : m = "" := by
      have hvalue := htaken.2
      rwa [hm] at hvalue
    exact absurd ⟨hempty ▸ hm, htaken.1⟩ h
  next => rw [hm, Setting.orDefault_some]

theorem effectiveModule_of_empty {t : Task} (hmodule : t.module = some "")
    (hsource : t.source.value ≠ "") : t.effectiveModule.orDefault "" = t.source := by
  have hempty : t.module.value = "" := by rw [hmodule]; rfl
  rw [effectiveModule_eq, modernModule, if_pos ⟨hsource, hempty⟩]
  cases hset : t.source with
  | none => exact absurd (by rw [hset]; rfl) hsource
  | some s => rfl

theorem isScheduled_iff {t : Task} : t.isScheduled = true ↔
    ∃ m, t.condition.monitor = .schedule m := by
  unfold isScheduled
  cases t.condition.monitor <;> simp [Monitor.kind?]

theorem kept_finalize (global : BufferPeriod) (root : String) (t : Task) :
    t.Kept (t.finalize global root) where
  name := Setting.kept_orDefault _ _
  description := Setting.kept_orDefault _ _
  providers := rfl
  services := rfl
  module := kept_effectiveModule
  moduleReplaced := effectiveModule_of_empty
  source := rfl
  version := Setting.kept_orDefault _ _
  moduleVariables := rfl
  varFiles := rfl
  bufferPeriod := fun hother => by
    have hfree : ¬ t.isScheduled = true := fun h =>
      (isScheduled_iff.mp h).elim fun m hm => hother m hm
    change BlockKept _ _ (some (t.finalizeBufferPeriod global))
    rw [finalizeBufferPeriod, if_neg hfree]
    exact blockKept_getD (BufferPeriod.kept_finalize global) _ _
  scheduled := fun m hm => by
    change some (t.finalizeBufferPeriod global) = _
    rw [finalizeBufferPeriod, if_pos (isScheduled_iff.mpr ⟨m, hm⟩)]
  enabled := Setting.kept_orDefault _ _
  condition := t.kept_finalizeCondition
  moduleInputs := ⟨t.moduleInputs.items.map ModuleInput.finalize,
    t.sourceInputs.items.map ModuleInput.finalize, List.map_append,
    forall₂_map (fun i => i.monitor.kept_finalize) _,
    forall₂_map (fun i => i.monitor.kept_finalize) _⟩
  sourceInputs := rfl
  workingDir := Setting.kept_orDefault _ _

end Task

/-- Every setting is kept, and so is the metadata. -/
structure Service.Kept (before after : Service) : Prop where
  datacenter : before.datacenter.Kept after.datacenter
  description : before.description.Kept after.description
  id : before.id.Kept after.id
  name : before.name.Kept after.name
  space : before.space.Kept after.space
  filter : before.filter.Kept after.filter
  userMeta : after.userMeta = before.userMeta

theorem Service.kept_finalize (s : Service) : s.Kept s.finalize where
  datacenter := Setting.kept_orDefault _ _
  description := Setting.kept_orDefault _ _
  id := Setting.kept_orDefault _ _
  name := Setting.kept_orDefault _ _
  space := Setting.kept_orDefault _ _
  filter := Setting.kept_orDefault _ _
  userMeta := rfl

/-! ### The whole configuration -/

namespace Config

/-- Every setting is kept, in the blocks inside as well, and so is every item of the lists, in its
place. -/
structure Kept (before after : Config) : Prop where
  port : before.port.Kept after.port
  id : before.id.Kept after.id
  logLevel : before.logLevel.Kept after.logLevel
  clientType : before.clientType.Kept after.clientType
  workingDir : before.workingDir.Kept after.workingDir
  syslog : BlockKept Syslog.Kept before.syslog after.syslog
  consul : BlockKept Consul.Kept before.consul after.consul
  vault : BlockKept Vault.Kept before.vault after.vault
  driver : BlockKept Driver.Kept before.driver after.driver
  tasks : List.Forall₂ Task.Kept before.tasks after.tasks
  services : List.Forall₂ Service.Kept before.services after.services
  providers : after.providers = before.providers
  bufferPeriod : BlockKept BufferPeriod.Kept before.bufferPeriod after.bufferPeriod
  tls : BlockKept ServerTls.Kept before.tls after.tls

/-- **Filling in defaults only fills gaps**: whatever is set is kept. -/
theorem finalize_only_fills (c : Config) (processors : UInt64) :
    c.Kept (c.finalize processors) where
  port := Setting.kept_orDefault _ _
  id := Setting.kept_orDefault _ _
  logLevel := Setting.kept_orDefault _ _
  clientType := Setting.kept_orDefault _ _
  workingDir := Setting.kept_orDefault _ _
  syslog := blockKept_getD Syslog.kept_finalize _ _
  consul := blockKept_getD (Consul.kept_finalize processors) _ _
  vault := blockKept_getD (Vault.kept_finalize processors) _ _
  driver := blockKept_getD (Driver.kept_finalize (c.finalConsul processors)) _ _
  tasks := forall₂_map (Task.kept_finalize c.finalBufferPeriod c.finalWorkingDir) _
  services := forall₂_map Service.kept_finalize _
  providers := rfl
  bufferPeriod := blockKept_getD (BufferPeriod.kept_finalize .builtIn) _ _
  tls := blockKept_getD ServerTls.kept_finalize _ _

end Config

end AutomationConfig
