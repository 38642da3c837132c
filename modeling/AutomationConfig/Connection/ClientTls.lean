import AutomationConfig.Schema
import AutomationConfig.Setting
import AutomationConfig.Violation

/-! # Client TLS

How a connection to Consul or Vault is secured. Giving any certificate material switches TLS on
unless the block says otherwise. -/

namespace AutomationConfig

/-- The TLS settings of a connection. -/
structure ClientTls where
  caCert : Setting String := none
  caPath : Setting String := none
  cert : Setting String := none
  enabled : Setting Bool := none
  key : Setting String := none
  serverName : Setting String := none
  verify : Setting Bool := none
deriving DecidableEq, Inhabited

namespace ClientTls

/-- Whether TLS is switched on. -/
def isEnabled (t : ClientTls) : Bool := t.enabled.value

/-- Whether any certificate material is given. -/
def hasMaterial (t : ClientTls) : Bool :=
  t.caCert.isGiven || t.caPath.isGiven || t.cert.isGiven || t.key.isGiven || t.serverName.isGiven

/-- The later of the settings of two fragments. -/
def merge (base other : ClientTls) : ClientTls where
  caCert := base.caCert.merge other.caCert
  caPath := base.caPath.merge other.caPath
  cert := base.cert.merge other.cert
  enabled := base.enabled.merge other.enabled
  key := base.key.merge other.key
  serverName := base.serverName.merge other.serverName
  verify := base.verify.merge other.verify

/-- The block with its defaults filled in. -/
def finalize (t : ClientTls) : ClientTls where
  caCert := t.caCert.orDefault ""
  caPath := t.caPath.orDefault ""
  cert := t.cert.orDefault ""
  enabled := t.enabled.orDefault t.hasMaterial
  key := t.key.orDefault ""
  serverName := t.serverName.orDefault ""
  verify := t.verify.orDefault true

/-- A certificate comes with its key, and a key with its certificate. -/
def check (owner : String) (t : ClientTls) : Except Violation Unit :=
  require (t.cert.isGiven == t.key.isGiven) (.unpairedKey owner)

instance : Block ClientTls where
  name := "TlsConfig"
  blank := {}
  fields := [
    Field.of "ca_cert" caCert fun v b => { b with caCert := v },
    Field.of "ca_path" caPath fun v b => { b with caPath := v },
    Field.of "cert" cert fun v b => { b with cert := v },
    Field.of "enabled" enabled fun v b => { b with enabled := v },
    Field.of "key" key fun v b => { b with key := v },
    Field.of "server_name" serverName fun v b => { b with serverName := v },
    Field.of "verify" verify fun v b => { b with verify := v }]

end ClientTls

end AutomationConfig
