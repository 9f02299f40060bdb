import NodeDiscovery.Table

/-! A discovery configuration: option values by key. -/
namespace NodeDiscovery

/-- Options by key. The option `provider` says who looks for the addresses, all others are for that
provider. -/
abbrev Config := Table String

namespace Config

/-- The key that selects the provider. -/
def providerKey : String := "provider"

/-- The name of the provider the configuration asks for. -/
def provider (c : Config) : Option String := c.get? providerKey

/-- The value of a key, unless it is the empty text. -/
def nonempty? (c : Config) (key : String) : Option String :=
  (c.get? key).filter (· ≠ "")

/-- The value of a key, where a missing one counts as empty. -/
def getD (c : Config) (key : String) : String := (c.get? key).getD ""

end Config
end NodeDiscovery
