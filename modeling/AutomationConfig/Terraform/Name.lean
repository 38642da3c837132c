/-! # Names of providers

Tasks refer to providers by ids: the name of the provider, and behind a dot an alias that tells its
instances apart. -/

namespace AutomationConfig

/-- The name of the provider that an id is of: what stands before the first dot. -/
def providerBaseName (id : String) : String := String.ofList (id.toList.takeWhile (· != '.'))

end AutomationConfig
