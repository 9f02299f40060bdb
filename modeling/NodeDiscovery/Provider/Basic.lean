import NodeDiscovery.Call
import NodeDiscovery.Provider.Error

/-! Providers: ways to find the addresses of nodes. -/
namespace NodeDiscovery

/-- A way to find addresses. `find` is given the user agent to send requests with. Finding none is
no failure. -/
structure Provider where
  /-- How to use it. -/
  help : String
  /-- Whether it sends a user agent, and so takes note of one. -/
  identifies : Bool
  userAgent : Option String := none
  find : Option String → World → Config → Call ProviderError (List String)

namespace Provider

/-- Takes note of a user agent, if that is of use. -/
def setUserAgent (p : Provider) (userAgent : String) : Provider :=
  if p.identifies then { p with userAgent := some userAgent } else p

/-- The addresses that a configuration asks for. -/
def addresses (p : Provider) (world : World) (c : Config) : Call ProviderError (List String) :=
  p.find p.userAgent world c

end Provider
end NodeDiscovery
