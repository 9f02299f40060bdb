import NodeDiscovery.Proofs.Builtin

/-! Who asks at all. A search of a web service either fails before anything is asked, or it has a
client with a token and all that it needs for its first question. -/
namespace NodeDiscovery

section Web
variable (baseUrl : String) (userAgent : Option String) (world : World) (c : Config)

theorem DigitalOcean.refuses_or_employs :
    (find baseUrl userAgent world c).Refuses ∨ ∃ token first rest,
      c.Employs world.env providerName "DIGITALOCEAN_TOKEN" ⟨baseUrl, userAgent, token⟩ ∧
        Requires c (first :: rest) := by
  rw [find_eq]
  refine (search.refuses_or_employs baseUrl userAgent world c).imp_right ?_
  rintro ⟨token, criteria, h, hcriteria⟩
  obtain ⟨-, htags⟩ := quiet_criteria_iff.mp hcriteria
  exact ⟨token, criteria.first, criteria.rest, h, tags_eq_ok_iff.mp htags⟩

theorem Hetzner.refuses_or_employs :
    (find baseUrl userAgent world c).Refuses ∨ ∃ token,
      c.Employs world.env providerName "HCLOUD_TOKEN" ⟨baseUrl, userAgent, token⟩ := by
  rw [find_eq]
  refine (search.refuses_or_employs baseUrl userAgent world c).imp_right ?_
  rintro ⟨token, -, h, -⟩
  exact ⟨token, h⟩

theorem Linode.refuses_or_employs :
    (find baseUrl userAgent world c).Refuses ∨ ∃ token kind,
      c.Employs world.env providerName "LINODE_TOKEN" ⟨baseUrl, userAgent, token⟩ ∧
        c.parsed "address_type" AddressKind.read default = .ok kind := by
  rw [find_eq]
  refine (search.refuses_or_employs baseUrl userAgent world c).imp_right ?_
  rintro ⟨token, criteria, h, hcriteria⟩
  exact ⟨token, criteria.kind, h, (quiet_criteria_iff.mp hcriteria).1⟩

theorem Vultr.refuses_or_employs :
    (find baseUrl userAgent world c).Refuses ∨ ∃ token,
      c.Employs world.env providerName "VULTR_API_KEY" ⟨baseUrl, userAgent, token⟩ := by
  rw [find_eq]
  refine (search.refuses_or_employs baseUrl userAgent world c).imp_right ?_
  rintro ⟨token, -, h, -⟩
  exact ⟨token, h⟩

end Web

namespace WebService

/-- What a service is asked for: a path, and the filter that goes with it. -/
inductive Asks (c : Config) : WebService → String → Option String → Prop
  | droplets : Asks c digitalOcean "/v2/droplets" none
  | servers : Asks c hetzner "/v1/servers" none
  | linodes : Asks c linode "/v4/linode/instances"
      (some (Linode.instanceFilter (c.getD "region") (c.getD "tag_name")))
  | linodeAddresses (id : UInt64) : Asks c linode s!"/v4/linode/instances/{id}/ips" none
  | instances : Asks c vultr "/v2/instances" none

def Builds (s : WebService) (c : Config) (client : Http.Client) (request : Http.Request) : Prop :=
  ∃ path query filter, s.Asks c path filter ∧ client.request path query filter = .ok request

/-- The run of a client puts questions to a service, for each of which it builds a request, and is
all or nothing. -/
def Questions (s : WebService) (c : Config) (client : Http.Client) (script : List Http.Reply)
    (o : Except ProviderError (List String) × List Event) : Prop :=
  ∃ (ι : Type) (request : ι → Except Http.Fault Http.Request)
    (leads : ι → Json → Option (Option ι)) (tell : ι → Http.Fault → String) (first : ι)
    (asked : List ι), (Http.service request leads).AllOrNothing tell script first asked o ∧
      ∀ q sent, request q = .ok sent → s.Builds c client sent

/-- A search refuses, or it is a session of a client that has the token of the configuration and a
user agent that can be sent. -/
theorem refuses_or_questions (s : WebService) (baseUrl : String) (userAgent : Option String)
    (world : World) (c : Config) :
    (s.find baseUrl userAgent world c).Refuses ∨ userAgent.all Http.isHeaderText = true ∧
      ∃ token, c.apiToken world.env s.tokenVariable = .ok token ∧ ∀ logger,
        s.Questions c ⟨baseUrl, userAgent, token⟩ world.web
          ((s.find baseUrl userAgent world c).outcome logger) := by
  cases s with
  | digitalOcean =>
    refine (DigitalOcean.refuses_or_employs baseUrl userAgent world c).imp_right ?_
    rintro ⟨token, first, rest, h, hrequires⟩
    refine ⟨h.userAgent, token, h.token, fun logger => ?_⟩
    obtain ⟨asked, hall⟩ := DigitalOcean.allOrNothing_find h hrequires logger
    exact ⟨_, _, _, _, _, asked, hall, fun _ _ hbuilt => ⟨_, _, _, .droplets, hbuilt⟩⟩
  | hetzner =>
    refine (Hetzner.refuses_or_employs baseUrl userAgent world c).imp_right ?_
    rintro ⟨token, h⟩
    refine ⟨h.userAgent, token, h.token, fun logger => ?_⟩
    obtain ⟨asked, hall⟩ := Hetzner.allOrNothing_find h logger
    exact ⟨_, _, _, _, _, asked, hall, fun _ _ hbuilt => ⟨_, _, _, .servers, hbuilt⟩⟩
  | linode =>
    refine (Linode.refuses_or_employs baseUrl userAgent world c).imp_right ?_
    rintro ⟨token, kind, h, hkind⟩
    refine ⟨h.userAgent, token, h.token, fun logger => ?_⟩
    obtain ⟨asked, hall⟩ := Linode.allOrNothing_find h hkind logger
    refine ⟨_, _, _, _, _, asked, hall, fun q _ hbuilt => ?_⟩
    cases q with
    | page number listed => exact ⟨_, _, _, .linodes, hbuilt⟩
    | ips id others => exact ⟨_, _, _, .linodeAddresses id, hbuilt⟩
  | vultr =>
    refine (Vultr.refuses_or_employs baseUrl userAgent world c).imp_right ?_
    rintro ⟨token, h⟩
    refine ⟨h.userAgent, token, h.token, fun logger => ?_⟩
    obtain ⟨asked, hall⟩ := Vultr.allOrNothing_find h logger
    exact ⟨_, _, _, _, _, asked, hall, fun _ _ hbuilt => ⟨_, _, _, .instances, hbuilt⟩⟩

end WebService
end NodeDiscovery
