import NodeDiscovery.Shell.Launch
import NodeDiscovery.World

/-! A machine without a network. -/
namespace NodeDiscovery

/-- No server can be reached, but command lines run. -/
def World.offline (bindings : List (String × String)) : World :=
  ⟨fun name => bindings.lookup name, [.unreachable], [.unreachable], .unreachable,
    Shell.outcome bindings⟩

end NodeDiscovery
