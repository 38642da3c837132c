import AutomationConfig.Connection.Consul
import AutomationConfig.Document

/-! # Backends

Terraform keeps its state in a backend. Where none is given the state is kept in Consul, below the
path of the daemon's own keys and over the same connection. -/

namespace AutomationConfig.Backend

/-- The backends that can be used. -/
def supported : List String :=
  ["azurerm", "consul", "cos", "gcs", "kubernetes", "local", "manta", "oss", "pg", "s3"]

/-- The text without the slashes at its end. -/
def withoutFinalSlashes (s : String) : String :=
  String.ofList (s.toList.reverse.dropWhile (· == '/')).reverse

/-- The key below which the state is kept. -/
def statePath (kvPath : String) : String := withoutFinalSlashes kvPath ++ "/terraform"

/-- The arguments that secure the connection: the scheme, and each file that is given. -/
def tlsArguments (tls : ClientTls) : List (String × Document) :=
  if tls.isEnabled then
    ("scheme", .text "https") ::
      [("ca_file", tls.caCert), ("cert_file", tls.cert), ("key_file", tls.key)].filterMap
        fun (name, file) => if file.isGiven then some (name, .text file.value) else none
  else []

/-- The arguments of the backend in Consul. -/
def consulArguments (c : Consul) : List (String × Document) :=
  [("address", .text c.address.value), ("path", .text (statePath c.kvPath.value)),
    ("gzip", .bool true)] ++ (c.tls.map tlsArguments).getD []

/-- The backend in Consul. -/
def ofConsul (c : Consul) : Table Document :=
  Table.empty.insert "consul" (.ofEntries (consulArguments c))

end AutomationConfig.Backend
