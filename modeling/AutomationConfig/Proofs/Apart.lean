import AutomationConfig.Proofs.Merging

/-! # Fragments with nothing in common

Two fragments are apart if no setting, wherever it stands in them, is set in both, no provider is
required in both, and at most one of them has a backend. Merging does not look at their order then:
`Apart.merge_comm` holds of settings and tables, so block by block of every block, and of a whole
configuration up to the lists, which add up in the order of the fragments. -/

namespace AutomationConfig

variable {α : Type}

/-! ### Settings, tables and optional blocks -/

/-- At most one of the settings is set. -/
def Setting.Apart (a b : Setting α) : Prop := a = none ∨ b = none

theorem Setting.Apart.merge_comm {a b : Setting α} (h : a.Apart b) : a.merge b = b.merge a := by
  rcases h with rfl | rfl
  · rw [none_merge, merge_none]
  · rw [none_merge, merge_none]

/-- No name has a value in both tables. -/
def Table.Apart (a b : Table α) : Prop := ∀ key, a.get? key = none ∨ b.get? key = none

theorem Table.Apart.merge_comm {a b : Table α} (h : a.Apart b) : a.merge b = b.merge a :=
  ext_get? fun key => by
    rw [get?_merge, get?_merge]
    rcases h key with hkey | hkey
    · rw [hkey, Option.or_none, Option.none_or]
    · rw [hkey, Option.or_none, Option.none_or]

/-- The blocks are apart, if both are there. -/
def BlocksApart (apart : α → α → Prop) (a b : Option α) : Prop := ∀ x ∈ a, ∀ y ∈ b, apart x y

theorem BlocksApart.merge_comm {apart : α → α → Prop} {f : α → α → α} {a b : Option α}
    (h : BlocksApart apart a b) (hf : ∀ {x y}, apart x y → f x y = f y x) :
    a.merge f b = b.merge f a := by
  cases a with
  | none => rw [Option.merge_none_left, Option.merge_none_right]
  | some x =>
    cases b with
    | none => rw [Option.merge_none_left, Option.merge_none_right]
    | some y => exact congrArg some (hf (h x rfl y rfl))

/-! ### The daemon -/

/-- No setting is set in both blocks. -/
structure Syslog.Apart (a b : Syslog) : Prop where
  enabled : a.enabled.Apart b.enabled
  facility : a.facility.Apart b.facility
  name : a.name.Apart b.name

theorem Syslog.Apart.merge_comm {a b : Syslog} (h : a.Apart b) : a.merge b = b.merge a := by
  simp only [merge, h.enabled.merge_comm, h.facility.merge_comm, h.name.merge_comm]

/-- No setting is set in both blocks. -/
structure ServerTls.Apart (a b : ServerTls) : Prop where
  enabled : a.enabled.Apart b.enabled
  cert : a.cert.Apart b.cert
  key : a.key.Apart b.key
  verifyIncoming : a.verifyIncoming.Apart b.verifyIncoming
  caCert : a.caCert.Apart b.caCert
  caPath : a.caPath.Apart b.caPath

theorem ServerTls.Apart.merge_comm {a b : ServerTls} (h : a.Apart b) :
    a.merge b = b.merge a := by
  simp only [merge, h.enabled.merge_comm, h.cert.merge_comm, h.key.merge_comm,
    h.verifyIncoming.merge_comm, h.caCert.merge_comm, h.caPath.merge_comm]

/-- No setting is set in both blocks. -/
structure BufferPeriod.Apart (a b : BufferPeriod) : Prop where
  enabled : a.enabled.Apart b.enabled
  min : a.min.Apart b.min
  max : a.max.Apart b.max

theorem BufferPeriod.Apart.merge_comm {a b : BufferPeriod} (h : a.Apart b) :
    a.merge b = b.merge a := by
  simp only [merge, h.enabled.merge_comm, h.min.merge_comm, h.max.merge_comm]

/-! ### Connections -/

/-- No setting is set in both blocks. -/
structure Auth.Apart (a b : Auth) : Prop where
  enabled : a.enabled.Apart b.enabled
  username : a.username.Apart b.username
  password : a.password.Apart b.password

theorem Auth.Apart.merge_comm {a b : Auth} (h : a.Apart b) : a.merge b = b.merge a := by
  simp only [merge, h.enabled.merge_comm, h.username.merge_comm, h.password.merge_comm]

/-- No setting is set in both blocks. -/
structure ClientTls.Apart (a b : ClientTls) : Prop where
  caCert : a.caCert.Apart b.caCert
  caPath : a.caPath.Apart b.caPath
  cert : a.cert.Apart b.cert
  enabled : a.enabled.Apart b.enabled
  key : a.key.Apart b.key
  serverName : a.serverName.Apart b.serverName
  verify : a.verify.Apart b.verify

theorem ClientTls.Apart.merge_comm {a b : ClientTls} (h : a.Apart b) :
    a.merge b = b.merge a := by
  simp only [merge, h.caCert.merge_comm, h.caPath.merge_comm, h.cert.merge_comm,
    h.enabled.merge_comm, h.key.merge_comm, h.serverName.merge_comm, h.verify.merge_comm]

/-- No setting is set in both blocks. -/
structure Transport.Apart (a b : Transport) : Prop where
  dialKeepAlive : a.dialKeepAlive.Apart b.dialKeepAlive
  dialTimeout : a.dialTimeout.Apart b.dialTimeout
  disableKeepAlives : a.disableKeepAlives.Apart b.disableKeepAlives
  idleConnTimeout : a.idleConnTimeout.Apart b.idleConnTimeout
  maxIdleConns : a.maxIdleConns.Apart b.maxIdleConns
  maxIdleConnsPerHost : a.maxIdleConnsPerHost.Apart b.maxIdleConnsPerHost
  tlsHandshakeTimeout : a.tlsHandshakeTimeout.Apart b.tlsHandshakeTimeout

theorem Transport.Apart.merge_comm {a b : Transport} (h : a.Apart b) :
    a.merge b = b.merge a := by
  simp only [merge, h.dialKeepAlive.merge_comm, h.dialTimeout.merge_comm,
    h.disableKeepAlives.merge_comm, h.idleConnTimeout.merge_comm, h.maxIdleConns.merge_comm,
    h.maxIdleConnsPerHost.merge_comm, h.tlsHandshakeTimeout.merge_comm]

/-- No setting is set in both blocks. -/
structure DefaultCheck.Apart (a b : DefaultCheck) : Prop where
  enabled : a.enabled.Apart b.enabled
  address : a.address.Apart b.address

theorem DefaultCheck.Apart.merge_comm {a b : DefaultCheck} (h : a.Apart b) :
    a.merge b = b.merge a := by
  simp only [merge, h.enabled.merge_comm, h.address.merge_comm]

/-- No setting is set in both blocks, nor in the blocks inside them. -/
structure Registration.Apart (a b : Registration) : Prop where
  enabled : a.enabled.Apart b.enabled
  serviceName : a.serviceName.Apart b.serviceName
  address : a.address.Apart b.address
  space : a.space.Apart b.space
  defaultCheck : BlocksApart DefaultCheck.Apart a.defaultCheck b.defaultCheck

theorem Registration.Apart.merge_comm {a b : Registration} (h : a.Apart b) :
    a.merge b = b.merge a := by
  simp only [merge, h.enabled.merge_comm, h.serviceName.merge_comm, h.address.merge_comm,
    h.space.merge_comm, h.defaultCheck.merge_comm DefaultCheck.Apart.merge_comm]

/-- No setting is set in both blocks, nor in the blocks inside them. -/
structure Consul.Apart (a b : Consul) : Prop where
  address : a.address.Apart b.address
  auth : BlocksApart Auth.Apart a.auth b.auth
  kvNamespace : a.kvNamespace.Apart b.kvNamespace
  kvPath : a.kvPath.Apart b.kvPath
  tls : BlocksApart ClientTls.Apart a.tls b.tls
  token : a.token.Apart b.token
  transport : BlocksApart Transport.Apart a.transport b.transport
  registration : BlocksApart Registration.Apart a.registration b.registration

theorem Consul.Apart.merge_comm {a b : Consul} (h : a.Apart b) : a.merge b = b.merge a := by
  simp only [merge, h.address.merge_comm, h.auth.merge_comm Auth.Apart.merge_comm,
    h.kvNamespace.merge_comm, h.kvPath.merge_comm, h.tls.merge_comm ClientTls.Apart.merge_comm,
    h.token.merge_comm, h.transport.merge_comm Transport.Apart.merge_comm,
    h.registration.merge_comm Registration.Apart.merge_comm]

/-- No setting is set in both blocks, nor in the blocks inside them. -/
structure Vault.Apart (a b : Vault) : Prop where
  address : a.address.Apart b.address
  enabled : a.enabled.Apart b.enabled
  space : a.space.Apart b.space
  renewToken : a.renewToken.Apart b.renewToken
  tls : BlocksApart ClientTls.Apart a.tls b.tls
  token : a.token.Apart b.token
  unwrapToken : a.unwrapToken.Apart b.unwrapToken
  transport : BlocksApart Transport.Apart a.transport b.transport

theorem Vault.Apart.merge_comm {a b : Vault} (h : a.Apart b) : a.merge b = b.merge a := by
  simp only [merge, h.address.merge_comm, h.enabled.merge_comm, h.space.merge_comm,
    h.renewToken.merge_comm, h.tls.merge_comm ClientTls.Apart.merge_comm, h.token.merge_comm,
    h.unwrapToken.merge_comm, h.transport.merge_comm Transport.Apart.merge_comm]

/-! ### The driver -/

/-- No setting is set in both blocks, no provider is required in both, and at most one of them has a
backend. -/
structure Terraform.Apart (a b : Terraform) : Prop where
  version : a.version.Apart b.version
  log : a.log.Apart b.log
  persistLog : a.persistLog.Apart b.persistLog
  path : a.path.Apart b.path
  backend : a.backend = ∅ ∨ b.backend = ∅
  requiredProviders : a.requiredProviders.Apart b.requiredProviders

theorem Table.ite_isEmpty (t : Table α) : (if t.isEmpty then ∅ else t) = t := by
  split
  next h => exact (Table.ext_entries (List.isEmpty_iff.mp h)).symm
  next => rfl

/-- If at most one block has a backend, it is the backend in both orders. -/
theorem Terraform.backend_merge_comm {a b : Terraform} (h : a.backend = ∅ ∨ b.backend = ∅) :
    (a.merge b).backend = (b.merge a).backend := by
  have hempty : (∅ : Table Document).isEmpty = true := rfl
  change (if b.backend.isEmpty then a.backend else b.backend) =
    if a.backend.isEmpty then b.backend else a.backend
  rcases h with h | h
  · rw [h, if_pos hempty, Table.ite_isEmpty]
  · rw [h, if_pos hempty, Table.ite_isEmpty]

theorem Terraform.Apart.merge_comm {a b : Terraform} (h : a.Apart b) :
    a.merge b = b.merge a := by
  have hbackend := backend_merge_comm h.backend
  simp only [merge, h.version.merge_comm, h.log.merge_comm, h.persistLog.merge_comm,
    h.path.merge_comm, h.requiredProviders.merge_comm] at hbackend ⊢
  rw [hbackend]

/-- What the drivers say of Terraform is apart. -/
structure Driver.Apart (a b : Driver) : Prop where
  terraform : BlocksApart Terraform.Apart a.terraform b.terraform

theorem Driver.Apart.merge_comm {a b : Driver} (h : a.Apart b) : a.merge b = b.merge a := by
  simp only [merge, h.terraform.merge_comm Terraform.Apart.merge_comm]

/-! ### Configurations -/

namespace Config

/-- **Fragments with nothing in common**: no setting is set in both, at any place outside of the
lists, no provider is required in both, and at most one of them has a backend. -/
structure Apart (a b : Config) : Prop where
  port : a.port.Apart b.port
  id : a.id.Apart b.id
  logLevel : a.logLevel.Apart b.logLevel
  clientType : a.clientType.Apart b.clientType
  workingDir : a.workingDir.Apart b.workingDir
  syslog : BlocksApart Syslog.Apart a.syslog b.syslog
  consul : BlocksApart Consul.Apart a.consul b.consul
  vault : BlocksApart Vault.Apart a.vault b.vault
  driver : BlocksApart Driver.Apart a.driver b.driver
  bufferPeriod : BlocksApart BufferPeriod.Apart a.bufferPeriod b.bufferPeriod
  tls : BlocksApart ServerTls.Apart a.tls b.tls

/-- The configuration without its lists. -/
def withoutLists (c : Config) : Config := { c with tasks := [], services := [], providers := [] }

theorem withoutLists_merge (a b : Config) :
    (a.merge b).withoutLists = a.withoutLists.merge b.withoutLists := rfl

theorem Apart.merge_comm {a b : Config} (h : a.Apart b) :
    a.withoutLists.merge b.withoutLists = b.withoutLists.merge a.withoutLists := by
  simp only [merge, withoutLists, h.port.merge_comm, h.id.merge_comm, h.logLevel.merge_comm,
    h.clientType.merge_comm, h.workingDir.merge_comm, h.syslog.merge_comm Syslog.Apart.merge_comm,
    h.consul.merge_comm Consul.Apart.merge_comm, h.vault.merge_comm Vault.Apart.merge_comm,
    h.driver.merge_comm Driver.Apart.merge_comm,
    h.bufferPeriod.merge_comm BufferPeriod.Apart.merge_comm,
    h.tls.merge_comm ServerTls.Apart.merge_comm]

end Config

end AutomationConfig
