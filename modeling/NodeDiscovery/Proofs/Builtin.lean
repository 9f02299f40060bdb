import NodeDiscovery.Proofs.DigitalOcean.Search
import NodeDiscovery.Proofs.Ec2.Search
import NodeDiscovery.Proofs.Hetzner.Search
import NodeDiscovery.Proofs.Linode.Search
import NodeDiscovery.Proofs.Vultr.Search
import NodeDiscovery.Provider.CommandLine
import NodeDiscovery.Provider.Dns

/-! The providers of this library, all of which have the shape of a search. -/
namespace NodeDiscovery

namespace CommandLine

theorem accepts_runLine (world : World) (line : String) (timeout : Duration) :
    (Call.ofExcept (runLine world line timeout)).Accepts := by
  intro logger e he
  have he : runLine world line timeout = .error e := he
  unfold runLine output output.timedOut at he
  split at he
  · cases he
    rfl
  · split at he
    · cases he
      rfl
    · split at he
      · cases he
        rfl
      · split at he
        · cases he
        · cases he
          rfl

def settle (c : Config) : Call ProviderError (String × Duration) := do
  let line ← Call.ofExcept (c.required "cmdline")
  let timeout ← Call.ofExcept (c.parsed "timeout" readTimeout defaultTimeout)
  Call.log .debug target
    ("Running " ++ Text.quoted line ++ " with timeout " ++ timeout.text)
  return (line, timeout)

def search : Search where
  name := providerName
  Plan := String × Duration
  Found := List UInt8
  settle _ := settle
  ask world plan := do
    Call.emit (.command plan.1 plan.2)
    Call.ofExcept (runLine world plan.1 plan.2)
  tell _ output := do
    Call.log .debug target ("Found ip addresses: " ++ Text.quotedList (addresses output))
    return addresses output
  plain_settle _ _ := (Call.plain_ofExcept _).bind fun _ => (Call.plain_ofExcept _).bind fun _ =>
    (Call.writes_log_pure _ _ _ _).plain
  silent_ask _ _ := (Call.silent_emit _).bind fun _ => Call.silent_ofExcept _
  accepts_ask world plan := (Call.accepts_emit _).bind fun _ => accepts_runLine world plan.1 plan.2
  transparent_tell _ _ := (Call.writes_log_pure _ _ _ _).transparent
  accepts_tell _ _ := (Call.writes_log_pure _ _ _ _).quiet.accepts

theorem find_eq (userAgent : Option String) (world : World) (c : Config) :
    find userAgent world c = search.find world c := by
  simp only [Search.find, search, settle, bind_assoc, pure_bind]
  rfl

end CommandLine

namespace Dns

def settle (c : Config) : Call ProviderError Lookup := do
  let l ← Call.ofExcept (lookup c)
  Call.log .debug target <| "Using query=" ++ l.query ++ " server=" ++ l.server.text ++
    " port=" ++ toString l.port ++ " timeout=" ++ l.timeout.text
  return l

def search : Search where
  name := providerName
  Plan := Lookup
  Found := List Address.V4
  settle _ := settle
  ask world l := do
    Call.emit (.lookup l)
    (Call.ofExcept (resolve world.dns l.query)).mapError
      fun fault => .requestFailed ("Failed to process query: " ++ fault.message)
  tell _ found := do
    Call.log .debug target ("found addrs " ++ Text.quotedList (found.map Address.V4.text))
    return found.map Address.V4.text
  plain_settle _ _ := (Call.plain_ofExcept _).bind fun _ => (Call.writes_log_pure _ _ _ _).plain
  silent_ask _ _ := (Call.silent_emit _).bind fun _ => (Call.silent_ofExcept _).mapError _
  accepts_ask _ _ := (Call.accepts_emit _).bind fun _ => Call.accepts_mapError fun _ => rfl
  transparent_tell _ _ := (Call.writes_log_pure _ _ _ _).transparent
  accepts_tell _ _ := (Call.writes_log_pure _ _ _ _).quiet.accepts

theorem find_eq (userAgent : Option String) (world : World) (c : Config) :
    find userAgent world c = search.find world c := by
  simp only [Search.find, search, settle, bind_assoc, pure_bind]
  rfl

end Dns

/-- The providers that ask a web service for which they need a token. -/
inductive WebService
  | digitalOcean
  | hetzner
  | linode
  | vultr

namespace WebService

def find : WebService → String → Option String → World → Config →
    Call ProviderError (List String)
  | digitalOcean => DigitalOcean.find
  | hetzner => Hetzner.find
  | linode => Linode.find
  | vultr => Vultr.find

def tokenVariable : WebService → String
  | digitalOcean => "DIGITALOCEAN_TOKEN"
  | hetzner => "HCLOUD_TOKEN"
  | linode => "LINODE_TOKEN"
  | vultr => "VULTR_API_KEY"

def search : WebService → WebSearch
  | digitalOcean => DigitalOcean.search
  | hetzner => Hetzner.search
  | linode => Linode.search
  | vultr => Vultr.search

@[simp] theorem tokenVariable_search (s : WebService) :
    s.search.tokenVariable = s.tokenVariable := by
  cases s <;> rfl

theorem find_eq (s : WebService) (baseUrl : String) (userAgent : Option String) (world : World)
    (c : Config) :
    s.find baseUrl userAgent world c = (s.search.toSearch baseUrl userAgent).find world c := by
  cases s with
  | digitalOcean => exact DigitalOcean.find_eq baseUrl userAgent world c
  | hetzner => exact Hetzner.find_eq baseUrl userAgent world c
  | linode => exact Linode.find_eq baseUrl userAgent world c
  | vultr => exact Vultr.find_eq baseUrl userAgent world c

end WebService

/-- The providers of this library. Those of web services may be asked at any address. -/
inductive Builtin
  | aws
  | cmd
  | digitalOcean (baseUrl : String)
  | dns
  | hetzner (baseUrl : String)
  | linode (baseUrl : String)
  | vultr (baseUrl : String)

namespace Builtin

def name : Builtin → String
  | aws => Ec2.providerName
  | cmd => CommandLine.providerName
  | digitalOcean _ => DigitalOcean.providerName
  | dns => Dns.providerName
  | hetzner _ => Hetzner.providerName
  | linode _ => Linode.providerName
  | vultr _ => Vultr.providerName

def provider : Builtin → Provider
  | aws => Ec2.provider
  | cmd => CommandLine.provider
  | digitalOcean baseUrl => DigitalOcean.provider baseUrl
  | dns => Dns.provider
  | hetzner baseUrl => Hetzner.provider baseUrl
  | linode baseUrl => Linode.provider baseUrl
  | vultr baseUrl => Vultr.provider baseUrl

def search (b : Builtin) (userAgent : Option String) : Search :=
  match b with
  | aws => Ec2.search
  | cmd => CommandLine.search
  | digitalOcean baseUrl => DigitalOcean.search.toSearch baseUrl userAgent
  | dns => Dns.search
  | hetzner baseUrl => Hetzner.search.toSearch baseUrl userAgent
  | linode baseUrl => Linode.search.toSearch baseUrl userAgent
  | vultr baseUrl => Vultr.search.toSearch baseUrl userAgent

@[simp] theorem name_search (b : Builtin) (userAgent : Option String) :
    (b.search userAgent).name = b.name := by
  cases b <;> rfl

theorem find_eq (b : Builtin) (userAgent : Option String) (world : World) (c : Config) :
    b.provider.find userAgent world c = (b.search userAgent).find world c := by
  cases b with
  | aws => exact Ec2.find_eq userAgent world c
  | cmd => exact CommandLine.find_eq userAgent world c
  | digitalOcean baseUrl => exact DigitalOcean.find_eq baseUrl userAgent world c
  | dns => exact Dns.find_eq userAgent world c
  | hetzner baseUrl => exact Hetzner.find_eq baseUrl userAgent world c
  | linode baseUrl => exact Linode.find_eq baseUrl userAgent world c
  | vultr baseUrl => exact Vultr.find_eq baseUrl userAgent world c

end Builtin
end NodeDiscovery
