import AutomationConfig.Connection.ClientTls
import AutomationConfig.Connection.Registration
import AutomationConfig.Connection.Transport

/-! # The connection to Consul

Where Consul is reached, with which credentials, and below which path the daemon keeps its keys.
Giving a user name or a password switches authentication on unless the block says otherwise. -/

namespace AutomationConfig

/-- Authentication by name and password. -/
structure Auth where
  enabled : Setting Bool := none
  username : Setting String := none
  password : Setting String := none
deriving DecidableEq, Inhabited

namespace Auth

/-- The later of the settings of two fragments. -/
def merge (base other : Auth) : Auth where
  enabled := base.enabled.merge other.enabled
  username := base.username.merge other.username
  password := base.password.merge other.password

/-- The block with its defaults filled in. -/
def finalize (a : Auth) : Auth where
  enabled := a.enabled.orDefault (a.username.isGiven || a.password.isGiven)
  username := a.username.orDefault ""
  password := a.password.orDefault ""

instance : Block Auth where
  name := "AuthConfig"
  blank := {}
  fields := [
    Field.of "enabled" enabled fun v b => { b with enabled := v },
    Field.of "username" username fun v b => { b with username := v },
    Field.secret "password" password fun v b => { b with password := v }]

end Auth

/-- The connection to Consul. -/
structure Consul where
  address : Setting String := none
  auth : Option Auth := none
  kvNamespace : Setting String := none
  kvPath : Setting String := none
  tls : Option ClientTls := none
  token : Setting String := none
  transport : Option Transport := none
  registration : Option Registration := none
deriving DecidableEq, Inhabited

namespace Consul

/-- Whether the connection is secured. -/
def tlsEnabled (c : Consul) : Bool := c.tls.any ClientTls.isEnabled

/-- The later of the settings of two fragments. -/
def merge (base other : Consul) : Consul where
  address := base.address.merge other.address
  auth := base.auth.merge Auth.merge other.auth
  kvNamespace := base.kvNamespace.merge other.kvNamespace
  kvPath := base.kvPath.merge other.kvPath
  tls := base.tls.merge ClientTls.merge other.tls
  token := base.token.merge other.token
  transport := base.transport.merge Transport.merge other.transport
  registration := base.registration.merge Registration.merge other.registration

/-- The block with its defaults filled in. -/
def finalize (c : Consul) (processors : UInt64 := 1) : Consul where
  address := c.address.orDefault "localhost:8500"
  auth := some (c.auth.getD {}).finalize
  kvNamespace := c.kvNamespace.orDefault ""
  kvPath := c.kvPath.orDefault "consul-terraform-sync/"
  tls := some (c.tls.getD {}).finalize
  token := c.token.orDefault ""
  transport := some ((c.transport.getD {}).finalize processors)
  registration := some (c.registration.getD {}).finalize

/-- The rules for the connection. -/
def check (c : Consul) : Except Violation Unit :=
  match c.tls with
  | some tls => tls.check "consul"
  | none => .ok ()

instance : Block Consul where
  name := "ConsulConfig"
  blank := {}
  fields := [
    Field.of "address" address fun v b => { b with address := v },
    Field.of "auth" auth fun v b => { b with auth := v },
    Field.of "kv_namespace" kvNamespace fun v b => { b with kvNamespace := v },
    Field.of "kv_path" kvPath fun v b => { b with kvPath := v },
    Field.of "tls" tls fun v b => { b with tls := v },
    Field.secret "token" token fun v b => { b with token := v },
    Field.of "transport" transport fun v b => { b with transport := v },
    Field.of "service_registration" registration fun v b => { b with registration := v }]

end Consul

end AutomationConfig
