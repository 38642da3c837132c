import AutomationConfig.Proofs.ConfigRules

/-! # Secrets do not show

The token for Consul, the password beside it, the token for Vault and the arguments of providers are
secrets. Two configurations that differ in nothing else (`Config.AlikeButSecrets`) cannot be told
apart by what inspection shows of them, neither as they are nor with their defaults, and not by the
advice on them. If they agree on the providers, validation does not tell them apart either
(`Config.secrets_do_not_show`).

Secrets are read when defaults are filled in: a password switches authentication on, a token for
Vault is to be renewed, and the backend follows from the connection to Consul. That two
configurations are alike is therefore carried from block to block, through inspection (`outline_eq`)
and through filling in defaults (`finalize`). Of a secret only two things may be seen, whether it is
set and whether it is empty (`Setting.SecretsAlike`). -/

namespace AutomationConfig

/-- Alike blocks stay alike with a default in place of a block that is not there. -/
theorem rel_getD {α : Type} {r : α → α → Prop} {a b : Option α} (h : Option.Rel r a b) {d : α}
    (hd : r d d) : r (a.getD d) (b.getD d) := by
  cases h with
  | none => exact hd
  | some h => exact h

/-- What inspection shows of a block is what it shows of the fields. -/
theorem Block.outlineBlock_congr {β : Type} [Block β] {a b : β}
    (h : (fields (β := β)).Forall fun f => f.outline a = f.outline b) :
    outlineBlock a = outlineBlock b :=
  congrArg (Outline.record (name β)) (List.map_congr_left fun f hf =>
    congrArg (Prod.mk f.label) (List.forall_iff_forall_mem.mp h f hf))

/-- Inspection does not tell blocks apart that are alike, if it does not where they are there. -/
theorem outline_eq_of_rel {α : Type} [Outlined α] {r : α → α → Prop}
    (hr : ∀ a b, r a b → outline a = outline b) {a b : Option α} (h : Option.Rel r a b) :
    outline a = outline b := by
  cases h with
  | none => rfl
  | @some a b h => exact congrArg (fun o => Outline.apply "Some" [o]) (hr a b h)

/-! ### Secrets -/

/-- **Secrets that may not be told apart**: both are set or neither, and both are empty or
neither. -/
structure Setting.SecretsAlike (a b : Setting String) : Prop where
  unset : a = none ↔ b = none
  empty : a = some "" ↔ b = some ""

namespace Setting

variable {a b : Setting String}

theorem secretsAlike_self (a : Setting String) : a.SecretsAlike a := ⟨Iff.rfl, Iff.rfl⟩

theorem secretsAlike_some {s t : String} (h : s = "" ↔ t = "") :
    SecretsAlike (some s) (some t) := by
  constructor <;> simp [h]

namespace SecretsAlike

theorem isGiven_eq (h : a.SecretsAlike b) : a.isGiven = b.isGiven := by
  have hgiven : ∀ s : Setting String, s.isGiven = true ↔ ¬ (s = none ∨ s = some "") := by
    intro s
    cases s <;> simp [isGiven, Scalar.zero]
  rw [Bool.eq_iff_iff, hgiven, hgiven, h.unset, h.empty]

theorem orDefault (h : a.SecretsAlike b) :
    (a.orDefault "").SecretsAlike (b.orDefault "") := by
  cases a with
  | none =>
    rw [h.unset.mp rfl]
    exact secretsAlike_self _
  | some s =>
    cases b with
    | none => exact nomatch h.unset.mpr rfl
    | some t => exact h

/-- Inspection shows of a secret whether it is set. -/
theorem outline_eq {β : Type} {name : String} {get : β → Setting String}
    {put : Setting String → β → β} {x y : β} (h : (get x).SecretsAlike (get y)) :
    (Field.secret name get put).outline x = (Field.secret name get put).outline y := by
  unfold Field.secret
  dsimp only
  cases hx : get x with
  | none => rw [h.unset.mp hx]
  | some s =>
    cases hy : get y with
    | none => exact nomatch hx.symm.trans (h.unset.mpr hy)
    | some t => rfl

end SecretsAlike

end Setting

/-! ### The connection to Consul -/

/-- The passwords may differ. -/
structure Auth.AlikeButSecrets (a b : Auth) : Prop where
  rest : { a with password := none } = { b with password := none }
  password : a.password.SecretsAlike b.password

namespace Auth

theorem alikeButSecrets_self (a : Auth) : a.AlikeButSecrets a :=
  ⟨rfl, Setting.secretsAlike_self _⟩

namespace AlikeButSecrets

variable {a b : Auth}

theorem outline_eq (h : a.AlikeButSecrets b) : outline a = outline b := by
  have ha : a = { b with password := a.password } :=
    (congrArg (fun c : Auth => { c with password := a.password }) h.rest :)
  rw [ha]
  exact Block.outlineBlock_congr ⟨rfl, rfl, h.password.outline_eq⟩

/-- A password switches authentication on, whichever it is. -/
theorem finalize (h : a.AlikeButSecrets b) : a.finalize.AlikeButSecrets b.finalize where
  rest := by
    have henabled : a.enabled = b.enabled := (congrArg Auth.enabled h.rest :)
    have husername : a.username = b.username := (congrArg Auth.username h.rest :)
    simp only [Auth.finalize, henabled, husername, h.password.isGiven_eq]
  password := h.password.orDefault

end AlikeButSecrets

end Auth

/-- The tokens and the passwords may differ. -/
structure Consul.AlikeButSecrets (a b : Consul) : Prop where
  rest : { a with auth := none, token := none } = { b with auth := none, token := none }
  auth : Option.Rel Auth.AlikeButSecrets a.auth b.auth
  token : a.token.SecretsAlike b.token

namespace Consul

theorem alikeButSecrets_empty : ({} : Consul).AlikeButSecrets {} :=
  ⟨rfl, .none, Setting.secretsAlike_self _⟩

namespace AlikeButSecrets

variable {a b : Consul}

theorem outline_eq (h : a.AlikeButSecrets b) : outline a = outline b := by
  have ha : a = { b with auth := a.auth, token := a.token } :=
    (congrArg (fun c : Consul => { c with auth := a.auth, token := a.token }) h.rest :)
  rw [ha]
  have hauth := outline_eq_of_rel (fun _ _ => Auth.AlikeButSecrets.outline_eq) h.auth
  exact Block.outlineBlock_congr ⟨rfl, hauth, rfl, rfl, rfl, h.token.outline_eq, rfl, rfl⟩

theorem finalize (h : a.AlikeButSecrets b) (processors : UInt64) :
    (a.finalize processors).AlikeButSecrets (b.finalize processors) where
  rest := (congrArg (fun c : Consul =>
    { c.finalize processors with auth := none, token := none }) h.rest :)
  auth := .some (rel_getD h.auth (Auth.alikeButSecrets_self {})).finalize
  token := h.token.orDefault

/-- The backend is reached as Consul is, but holds no credentials. -/
theorem ofConsul_eq (h : a.AlikeButSecrets b) : Backend.ofConsul a = Backend.ofConsul b :=
  (congrArg Backend.ofConsul h.rest :)

theorem check_eq (h : a.AlikeButSecrets b) : a.check = b.check := (congrArg check h.rest :)

end AlikeButSecrets

end Consul

/-! ### The connection to Vault -/

/-- The tokens may differ. -/
structure Vault.AlikeButSecrets (a b : Vault) : Prop where
  rest : { a with token := none } = { b with token := none }
  token : a.token.SecretsAlike b.token

namespace Vault

theorem alikeButSecrets_empty : ({} : Vault).AlikeButSecrets {} :=
  ⟨rfl, Setting.secretsAlike_self _⟩

namespace AlikeButSecrets

variable {a b : Vault}

theorem outline_eq (h : a.AlikeButSecrets b) : outline a = outline b := by
  have ha : a = { b with token := a.token } :=
    (congrArg (fun v : Vault => { v with token := a.token }) h.rest :)
  rw [ha]
  exact Block.outlineBlock_congr ⟨rfl, rfl, rfl, rfl, rfl, h.token.outline_eq, rfl, rfl⟩

/-- A token is renewed, whichever it is. -/
theorem finalize (h : a.AlikeButSecrets b) (processors : UInt64) :
    (a.finalize processors).AlikeButSecrets (b.finalize processors) where
  rest := by
    -- only the renewal of the token looks at the token
    have hfill (renew : Setting Bool) :
        { a.finalize processors with token := none, renewToken := renew } =
          { b.finalize processors with token := none, renewToken := renew } :=
      (congrArg (fun v : Vault =>
        { v.finalize processors with token := none, renewToken := renew }) h.rest :)
    have hrenew : (a.finalize processors).renewToken = (b.finalize processors).renewToken := by
      have hset : a.renewToken = b.renewToken := (congrArg renewToken h.rest :)
      rw [Vault.finalize, Vault.finalize, hset, h.token.isGiven_eq]
    exact (hfill (a.finalize processors).renewToken).trans (by rw [hrenew])
  token := h.token.orDefault

theorem check_eq (h : a.AlikeButSecrets b) : a.check = b.check := (congrArg check h.rest :)

theorem isEnabled_eq (h : a.AlikeButSecrets b) : a.isEnabled = b.isEnabled :=
  (congrArg isEnabled h.rest :)

end AlikeButSecrets

end Vault

/-! ### Configurations -/

/-- Inspection shows of providers their names. -/
theorem Provider.outline_eq_of_keys {ps qs : List Provider}
    (h : ps.map (·.blocks.keys) = qs.map (·.blocks.keys)) : outline ps = outline qs := by
  let shown (keys : List String) : Outline := .map (keys.map fun name => (name, .redacted))
  have hshown := congrArg (fun keys => Outline.list (keys.map shown)) h
  simp only [List.map_map] at hshown
  exact hshown

/-- The driver looks at the connection to Consul only for the backend. -/
theorem Driver.finalize_congr {c d : Consul} (h : Backend.ofConsul c = Backend.ofConsul d)
    (driver : Driver) : driver.finalize c = driver.finalize d := by
  rw [finalize, finalize, Terraform.finalize, Terraform.finalize, h]

/-- **Configurations that agree everywhere but in secrets**: in the passwords, the tokens and the
arguments of providers. -/
structure Config.AlikeButSecrets (a b : Config) : Prop where
  rest : { a with consul := none, vault := none, providers := [] } =
    { b with consul := none, vault := none, providers := [] }
  consul : Option.Rel Consul.AlikeButSecrets a.consul b.consul
  vault : Option.Rel Vault.AlikeButSecrets a.vault b.vault
  providers : a.providers.map (·.blocks.keys) = b.providers.map (·.blocks.keys)

namespace Config

theorem checkBlock_congr {α : Type} {r : α → α → Prop} {check : α → Except Violation Unit}
    (hr : ∀ a b, r a b → check a = check b) {a b : Option α} (h : Option.Rel r a b) :
    checkBlock check a = checkBlock check b := by
  cases h with
  | none => rfl
  | some h => exact hr _ _ h

namespace AlikeButSecrets

variable {a b : Config}

theorem outline_eq (h : a.AlikeButSecrets b) : outline a = outline b := by
  have ha : a = { b with consul := a.consul, vault := a.vault, providers := a.providers } :=
    (congrArg (fun c : Config =>
      { c with consul := a.consul, vault := a.vault, providers := a.providers }) h.rest :)
  rw [ha]
  have hconsul := outline_eq_of_rel (fun _ _ => Consul.AlikeButSecrets.outline_eq) h.consul
  have hvault := outline_eq_of_rel (fun _ _ => Vault.AlikeButSecrets.outline_eq) h.vault
  have hproviders := Provider.outline_eq_of_keys h.providers
  exact Block.outlineBlock_congr
    ⟨rfl, rfl, rfl, rfl, rfl, rfl, hconsul, hvault, rfl, rfl, rfl, hproviders, rfl, rfl⟩

theorem finalConsul (h : a.AlikeButSecrets b) (processors : UInt64) :
    (a.finalConsul processors).AlikeButSecrets (b.finalConsul processors) :=
  (rel_getD h.consul Consul.alikeButSecrets_empty).finalize processors

theorem finalize (h : a.AlikeButSecrets b) (processors : UInt64) :
    (a.finalize processors).AlikeButSecrets (b.finalize processors) where
  rest := by
    -- only the driver looks at a block that may differ
    have hfill (driver : Option Driver) :
        { a.finalize processors with consul := none, vault := none, providers := [], driver } =
          { b.finalize processors with consul := none, vault := none, providers := [], driver } :=
      (congrArg (fun c : Config =>
        { c.finalize processors with consul := none, vault := none, providers := [], driver })
        h.rest :)
    have hdriver : (a.finalize processors).driver = (b.finalize processors).driver := by
      have hset : a.driver = b.driver := (congrArg driver h.rest :)
      have hbackend :=
        Driver.finalize_congr (h.finalConsul processors).ofConsul_eq (b.driver.getD {})
      rw [Config.finalize, Config.finalize, hset, hbackend]
    exact (hfill (a.finalize processors).driver).trans (by rw [hdriver])
  consul := .some (h.finalConsul processors)
  vault := .some ((rel_getD h.vault Vault.alikeButSecrets_empty).finalize processors)
  providers := h.providers

theorem warnings_eq (h : a.AlikeButSecrets b) : a.warnings = b.warnings :=
  (congrArg warnings h.rest :)

theorem vaultEnabled_eq (h : a.AlikeButSecrets b) : a.vaultEnabled = b.vaultEnabled := by
  have hvault := h.vault
  unfold vaultEnabled
  generalize a.vault = v at hvault ⊢
  generalize b.vault = w at hvault ⊢
  cases hvault with
  | none => rfl
  | some hvw => exact hvw.isEnabled_eq

/-- Secrets are not checked, except for the arguments of providers. -/
theorem outcome_validate_eq (h : a.AlikeButSecrets b) (hproviders : a.providers = b.providers) :
    a.validate.outcome = b.validate.outcome := by
  have htls : a.tls = b.tls := (congrArg tls h.rest :)
  have hdriver : a.driver = b.driver := (congrArg driver h.rest :)
  have htasks : a.tasks = b.tasks := (congrArg tasks h.rest :)
  have hservices : a.services = b.services := (congrArg services h.rest :)
  have hperiod : a.bufferPeriod = b.bufferPeriod := (congrArg bufferPeriod h.rest :)
  have hconsul : checkBlock Consul.check a.consul = checkBlock Consul.check b.consul :=
    checkBlock_congr (r := Consul.AlikeButSecrets) (fun _ _ hcd => hcd.check_eq) h.consul
  have hvault : checkBlock Vault.check a.vault = checkBlock Vault.check b.vault :=
    checkBlock_congr (r := Vault.AlikeButSecrets) (fun _ _ hvw => hvw.check_eq) h.vault
  have hlevel : a.checkLogLevel = b.checkLogLevel := (congrArg checkLogLevel h.rest :)
  have hnames : a.checkTaskNames = b.checkTaskNames := (congrArg checkTaskNames h.rest :)
  have huse : a.checkVaultUse = b.checkVaultUse := by
    rw [checkVaultUse, checkVaultUse, hproviders, h.vaultEnabled_eq]
  have hsharing : a.checkSharing = b.checkSharing := by
    have husers : a.usersOf = b.usersOf := (congrArg usersOf h.rest :)
    rw [checkSharing, checkSharing, autoCommitIds, autoCommitIds, hproviders, husers]
  rw [outcome_validate, outcome_validate]
  simp only [rules, List.map_append, List.map_cons, htls, hdriver, htasks, hservices, hperiod,
    hconsul, hvault, hlevel, hnames, huse, hsharing, hproviders]

end AlikeButSecrets

/-- **Secrets do not show.** Configurations that agree everywhere but in secrets look the same under
inspection, on one line and on many, before and after defaults are filled in, and come with the same
advice. If they agree on the providers as well, validation comes to the same outcome. -/
theorem secrets_do_not_show {a b : Config} (h : a.AlikeButSecrets b) (processors : UInt64) :
    (outline a).compact = (outline b).compact ∧ (outline a).indented = (outline b).indented ∧
      (outline (a.finalize processors)).compact = (outline (b.finalize processors)).compact ∧
      (outline (a.finalize processors)).indented = (outline (b.finalize processors)).indented ∧
      a.warnings = b.warnings ∧
      (a.providers = b.providers → a.validate.outcome = b.validate.outcome ∧
        (a.finalize processors).validate.outcome = (b.finalize processors).validate.outcome) :=
  ⟨congrArg Outline.compact h.outline_eq, congrArg Outline.indented h.outline_eq,
    congrArg Outline.compact (h.finalize processors).outline_eq,
    congrArg Outline.indented (h.finalize processors).outline_eq, h.warnings_eq,
    fun hproviders => ⟨h.outcome_validate_eq hproviders,
      (h.finalize processors).outcome_validate_eq hproviders⟩⟩

/-- A configuration with a secret of each kind. -/
def withSecrets (password token vaultToken : String) (argument : Document) : Config where
  consul := some { auth := some { password := some password }, token := some token }
  vault := some { token := some vaultToken }
  providers := [⟨Table.empty.insert "dns" (.map [("token", argument)])⟩]

theorem alike_withSecrets {p q t u v w : String} (hp : p = "" ↔ q = "") (ht : t = "" ↔ u = "")
    (hv : v = "" ↔ w = "") (c d : Document) :
    (withSecrets p t v c).AlikeButSecrets (withSecrets q u w d) where
  rest := rfl
  consul := .some ⟨rfl, .some ⟨rfl, Setting.secretsAlike_some hp⟩, Setting.secretsAlike_some ht⟩
  vault := .some ⟨rfl, Setting.secretsAlike_some hv⟩
  providers := rfl

/-- Inspection shows neither the secrets nor the argument of the provider, and validation does not
look at the secrets. -/
theorem secrets_do_not_show_withSecrets :
    (outline ((withSecrets "p" "t" "v" (.text "k")).finalize 4)).compact =
        (outline ((withSecrets "q" "u" "w" (.text "l")).finalize 4)).compact ∧
      (withSecrets "p" "t" "v" .null).validate.outcome =
        (withSecrets "q" "u" "w" .null).validate.outcome :=
  ⟨(secrets_do_not_show (alike_withSecrets (by decide) (by decide) (by decide) _ _) 4).2.2.1,
    ((secrets_do_not_show (alike_withSecrets (by decide) (by decide) (by decide) _ _) 4).2.2.2.2.2
      rfl).1⟩

end Config

end AutomationConfig
