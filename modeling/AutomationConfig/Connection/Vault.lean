import AutomationConfig.Connection.ClientTls
import AutomationConfig.Connection.Transport

/-! # The connection to Vault

Vault holds the secrets that the arguments of providers may refer to. Giving an address switches it
on, and giving a token has the token renewed, unless the block says otherwise. -/

namespace AutomationConfig

/-- The connection to Vault. -/
structure Vault where
  address : Setting String := none
  enabled : Setting Bool := none
  space : Setting String := none
  renewToken : Setting Bool := none
  tls : Option ClientTls := none
  token : Setting String := none
  unwrapToken : Setting Bool := none
  transport : Option Transport := none
deriving DecidableEq, Inhabited

namespace Vault

/-- Whether Vault is switched on. -/
def isEnabled (v : Vault) : Bool := v.enabled.value

/-- The later of the settings of two fragments. -/
def merge (base other : Vault) : Vault where
  address := base.address.merge other.address
  enabled := base.enabled.merge other.enabled
  space := base.space.merge other.space
  renewToken := base.renewToken.merge other.renewToken
  tls := base.tls.merge ClientTls.merge other.tls
  token := base.token.merge other.token
  unwrapToken := base.unwrapToken.merge other.unwrapToken
  transport := base.transport.merge Transport.merge other.transport

/-- The block with its defaults filled in. -/
def finalize (v : Vault) (processors : UInt64 := 1) : Vault where
  address := v.address.orDefault ""
  enabled := v.enabled.orDefault v.address.isGiven
  space := v.space.orDefault ""
  renewToken := v.renewToken.orDefault v.token.isGiven
  tls := some (v.tls.getD {}).finalize
  token := v.token.orDefault ""
  unwrapToken := v.unwrapToken.orDefault false
  transport := some ((v.transport.getD {}).finalize processors)

/-- The rules for the connection. -/
def check (v : Vault) : Except Violation Unit :=
  match v.tls with
  | some tls => tls.check "vault"
  | none => .ok ()

instance : Block Vault where
  name := "VaultConfig"
  blank := {}
  fields := [
    Field.of "address" address fun v b => { b with address := v },
    Field.of "enabled" enabled fun v b => { b with enabled := v },
    Field.of "namespace" space fun v b => { b with space := v },
    Field.of "renew_token" renewToken fun v b => { b with renewToken := v },
    Field.of "tls" tls fun v b => { b with tls := v },
    Field.secret "token" token fun v b => { b with token := v },
    Field.of "unwrap_token" unwrapToken fun v b => { b with unwrapToken := v },
    Field.of "transport" transport fun v b => { b with transport := v }]

end Vault

end AutomationConfig
