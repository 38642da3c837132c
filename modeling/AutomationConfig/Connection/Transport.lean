import AutomationConfig.Schema
import AutomationConfig.Setting

/-! # Transport

How connections to Consul and Vault are kept and how long they may take. -/

namespace AutomationConfig

/-- Limits of the connections to a server. -/
structure Transport where
  dialKeepAlive : Setting Duration := none
  dialTimeout : Setting Duration := none
  disableKeepAlives : Setting Bool := none
  idleConnTimeout : Setting Duration := none
  maxIdleConns : Setting UInt64 := none
  maxIdleConnsPerHost : Setting UInt64 := none
  tlsHandshakeTimeout : Setting Duration := none
deriving DecidableEq, Inhabited

namespace Transport

/-- The later of the settings of two fragments. -/
def merge (base other : Transport) : Transport where
  dialKeepAlive := base.dialKeepAlive.merge other.dialKeepAlive
  dialTimeout := base.dialTimeout.merge other.dialTimeout
  disableKeepAlives := base.disableKeepAlives.merge other.disableKeepAlives
  idleConnTimeout := base.idleConnTimeout.merge other.idleConnTimeout
  maxIdleConns := base.maxIdleConns.merge other.maxIdleConns
  maxIdleConnsPerHost := base.maxIdleConnsPerHost.merge other.maxIdleConnsPerHost
  tlsHandshakeTimeout := base.tlsHandshakeTimeout.merge other.tlsHandshakeTimeout

/-- The block with its defaults filled in. A host keeps one idle connection more than there are
processors to run on, which is one where it cannot be told. -/
def finalize (t : Transport) (processors : UInt64 := 1) : Transport where
  dialKeepAlive := t.dialKeepAlive.orDefault (.ofSeconds 30)
  dialTimeout := t.dialTimeout.orDefault (.ofSeconds 30)
  disableKeepAlives := t.disableKeepAlives.orDefault false
  idleConnTimeout := t.idleConnTimeout.orDefault (.ofSeconds 90)
  maxIdleConns := t.maxIdleConns.orDefault 100
  maxIdleConnsPerHost := t.maxIdleConnsPerHost.orDefault (processors + 1)
  tlsHandshakeTimeout := t.tlsHandshakeTimeout.orDefault (.ofSeconds 10)

instance : Block Transport where
  name := "TransportConfig"
  blank := {}
  fields := [
    (Field.of "dial_keep_alive" dialKeepAlive fun v b =>
      { b with dialKeepAlive := v }).optional,
    (Field.of "dial_timeout" dialTimeout fun v b => { b with dialTimeout := v }).optional,
    Field.of "disable_keep_alives" disableKeepAlives fun v b => { b with disableKeepAlives := v },
    (Field.of "idle_conn_timeout" idleConnTimeout fun v b =>
      { b with idleConnTimeout := v }).optional,
    Field.of "max_idle_conns" maxIdleConns fun v b => { b with maxIdleConns := v },
    Field.of "max_idle_conns_per_host" maxIdleConnsPerHost fun v b =>
      { b with maxIdleConnsPerHost := v },
    (Field.of "tls_handshake_timeout" tlsHandshakeTimeout fun v b =>
      { b with tlsHandshakeTimeout := v }).optional]

end Transport

end AutomationConfig
