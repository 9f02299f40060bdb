import NodeDiscovery.Config.SyntaxError
import NodeDiscovery.Provider.Error
import NodeDiscovery.Text.Quoted

/-! Why a discovery fails. -/
namespace NodeDiscovery

inductive DiscoveryError
  | config (fault : SyntaxError)
  | missingProvider
  | unknownProvider (name : String)
  | duplicateProvider (name : String)
  /-- The provider registered under `name` was asked and failed. -/
  | provider (name : String) (fault : ProviderError)
deriving DecidableEq, Repr

def DiscoveryError.message : DiscoveryError → String
  | config fault => "discover: " ++ fault.message
  | missingProvider => "discover: no provider given"
  | unknownProvider name => "discover: unknown provider " ++ Text.quoted name
  | duplicateProvider name =>
    "discover: provider " ++ Text.quoted name ++ " is already registered"
  | provider name fault => "discover-" ++ name ++ ": " ++ fault.message

end NodeDiscovery
