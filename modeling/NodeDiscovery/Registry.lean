import NodeDiscovery.DiscoveryError
import NodeDiscovery.Provider.CommandLine
import NodeDiscovery.Provider.DigitalOcean
import NodeDiscovery.Provider.Dns
import NodeDiscovery.Provider.Ec2
import NodeDiscovery.Provider.Hetzner
import NodeDiscovery.Provider.Linode
import NodeDiscovery.Provider.Vultr

/-! The providers one can ask, by name. -/
namespace NodeDiscovery

structure Registry where
  providers : Table Provider

namespace Registry

def empty : Registry := ⟨.empty⟩

def get? (r : Registry) (name : String) : Option Provider := r.providers.get? name

/-- The names in ascending order. -/
def names (r : Registry) : List String := r.providers.names

def size (r : Registry) : Nat := r.providers.size

def isEmpty (r : Registry) : Bool := r.providers.isEmpty

/-- Adds a provider. A name that is taken stays with its provider. -/
def register (r : Registry) (name : String) (p : Provider) : Except DiscoveryError Registry :=
  if r.providers.contains name then .error (.duplicateProvider name)
  else .ok ⟨r.providers.insert name p⟩

/-- Tells all providers the user agent to send requests with. -/
def setUserAgent (r : Registry) (userAgent : String) : Registry :=
  ⟨r.providers.map (·.setUserAgent userAgent)⟩

/-- All providers of this library, each under its own name and at its usual address. -/
def standard : Registry where
  providers := .ofList [
    (Ec2.providerName, Ec2.provider),
    (CommandLine.providerName, CommandLine.provider),
    (DigitalOcean.providerName, DigitalOcean.provider DigitalOcean.defaultBaseUrl),
    (Dns.providerName, Dns.provider),
    (Hetzner.providerName, Hetzner.provider Hetzner.defaultBaseUrl),
    (Linode.providerName, Linode.provider Linode.defaultBaseUrl),
    (Vultr.providerName, Vultr.provider Vultr.defaultBaseUrl)]

/-- How configurations are written. -/
def globalHelp : String :=
"The options for discovering ip addresses are provided as a
single string value in \"key=value key=value ...\" format. Values containing
spaces, '=' or '\"' must be enclosed in double quotes; inside quotes \\\" and \\\\
stand for a quote and a backslash.

  provider=aws region=eu-west-1 ...

The options are provider specific and are listed below.
"

/-- The global help and that of every provider. -/
def help (r : Registry) : String :=
  r.providers.rows.foldl (fun text row => text ++ "\n" ++ row.2.help) globalHelp

/-- How a registry shows itself in messages. -/
def describe (r : Registry) : String :=
  "Registry \x7b providers: " ++ Text.quotedList r.names ++ " \x7d"

theorem register_eq_error_iff {r : Registry} {name : String} {p : Provider} {e : DiscoveryError} :
    r.register name p = .error e ↔ name ∈ r.names ∧ e = .duplicateProvider name := by
  unfold register names
  rw [← Table.isSome_get?_iff, Table.contains]
  split
  · next h => exact ⟨fun e => ⟨h, (Except.error.inj e).symm⟩, fun e => by rw [e.2]⟩
  · next h => exact ⟨fun e => (by cases e), fun e => absurd e.1 h⟩

theorem get?_register {r s : Registry} {name : String} {p : Provider}
    (h : r.register name p = .ok s) (key : String) :
    s.get? key = if key = name then some p else r.get? key := by
  unfold register at h
  split at h
  · cases h
  · cases h
    exact Table.get?_insert ..

theorem get?_setUserAgent (r : Registry) (userAgent name : String) :
    (r.setUserAgent userAgent).get? name = (r.get? name).map (·.setUserAgent userAgent) :=
  Table.get?_map ..

@[simp] theorem names_setUserAgent (r : Registry) (userAgent : String) :
    (r.setUserAgent userAgent).names = r.names := Table.names_map ..

theorem names_ascending (r : Registry) : r.names.Pairwise (· < ·) := r.providers.names_ascending

end Registry
end NodeDiscovery
