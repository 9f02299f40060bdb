import NodeDiscovery.Config.Parser
import NodeDiscovery.Registry

/-! Discovery: the provider that a configuration names is asked once. -/
namespace NodeDiscovery.Registry

/-- The addresses that the provider of a configuration finds. -/
def discoverConfig (r : Registry) (world : World) (c : Config) :
    Call DiscoveryError (List String) :=
  match c.provider with
  | none => Call.fail .missingProvider
  | some name =>
    match r.get? name with
    | none => Call.fail (.unknownProvider name)
    | some p => (p.addresses world c).mapError (.provider name)

/-- The addresses that the provider of a configuration text finds. -/
def discover (r : Registry) (world : World) (text : String) : Call DiscoveryError (List String) :=
  match Config.parse text with
  | .error fault => Call.fail (.config fault)
  | .ok c => r.discoverConfig world c

/-- How discovery through a registry shows itself in messages. -/
def describeDiscovery (r : Registry) : String :=
  "Discover \x7b registry: " ++ r.describe ++ " \x7d"

end NodeDiscovery.Registry
