import AutomationConfig.Schema
import AutomationConfig.Setting
import AutomationConfig.Violation

/-! # Server TLS

How the daemon secures its own interface. -/

namespace AutomationConfig

/-- The TLS settings of the daemon's interface. -/
structure ServerTls where
  enabled : Setting Bool := none
  cert : Setting String := none
  key : Setting String := none
  verifyIncoming : Setting Bool := none
  caCert : Setting String := none
  caPath : Setting String := none
deriving DecidableEq, Inhabited

namespace ServerTls

/-- The later of the settings of two fragments. -/
def merge (base other : ServerTls) : ServerTls where
  enabled := base.enabled.merge other.enabled
  cert := base.cert.merge other.cert
  key := base.key.merge other.key
  verifyIncoming := base.verifyIncoming.merge other.verifyIncoming
  caCert := base.caCert.merge other.caCert
  caPath := base.caPath.merge other.caPath

/-- The block with its defaults filled in. -/
def finalize (t : ServerTls) : ServerTls where
  enabled := t.enabled.orDefault false
  cert := t.cert.orDefault ""
  key := t.key.orDefault ""
  verifyIncoming := t.verifyIncoming.orDefault false
  caCert := t.caCert.orDefault ""
  caPath := t.caPath.orDefault ""

/-- A secured interface has a certificate and its key and, to verify who connects, an authority. -/
def check (t : ServerTls) : Except Violation Unit :=
  if t.enabled.value then do
    require (t.cert.isGiven && t.key.isGiven) .serverKeyMissing
    require (!t.verifyIncoming.value || t.caCert.isGiven || t.caPath.isGiven)
      .serverAuthorityMissing
  else .ok ()

instance : Block ServerTls where
  name := "ServerTlsConfig"
  blank := {}
  fields := [
    Field.of "enabled" enabled fun v b => { b with enabled := v },
    Field.of "cert" cert fun v b => { b with cert := v },
    Field.of "key" key fun v b => { b with key := v },
    Field.of "verify_incoming" verifyIncoming fun v b => { b with verifyIncoming := v },
    Field.of "ca_cert" caCert fun v b => { b with caCert := v },
    Field.of "ca_path" caPath fun v b => { b with caPath := v }]

end ServerTls

end AutomationConfig
