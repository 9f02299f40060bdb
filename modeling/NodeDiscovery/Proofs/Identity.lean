import NodeDiscovery.Proofs.Arguments
import NodeDiscovery.Proofs.Employment
import NodeDiscovery.Proofs.Http.Fetch
import NodeDiscovery.Proofs.Registration
import NodeDiscovery.Proofs.Token

/-! Who the requests of a call are from. However many there are, and whatever they are for, all of
them have the token of the configuration and the user agent that the registry was last told of. -/
namespace NodeDiscovery

namespace Http
variable {ι : Type}

theorem Client.headers_of_request {client : Client} {path : String}
    {query : List (String × String)} {filter : Option String} {request : Request}
    (h : client.request path query filter = .ok request) :
    request.authorization = "Bearer " ++ client.token ∧ request.userAgent = client.userAgent ∧
      request.filter = filter := by
  obtain ⟨endpoint, -, -, -, -, -, rfl⟩ := Client.request_eq_ok_iff.mp h
  exact ⟨rfl, rfl, rfl⟩

theorem mem_events {request : ι → Except Fault Request}
    {leads : ι → Json → Option (Option ι)} {tell : ι → Fault → String} {script : List Reply}
    {first : ι} {asked : List ι}
    {o : Except ProviderError (List String) × List Event}
    (h : (service request leads).AllOrNothing tell script first asked o) {event : Event}
    (hevent : event ∈ o.2) : ∃ q sent, request q = .ok sent ∧ event = .web sent := by
  rw [h.events] at hevent
  obtain ⟨events, hevents, hmem⟩ := List.mem_flatten.mp hevent
  obtain ⟨i, hi, rfl⟩ := List.mem_mapIdx.mp hevents
  simp only [service] at hmem
  cases hrequest : request asked[i] with
  | error fault => simp [hrequest] at hmem
  | ok sent =>
    rw [hrequest] at hmem
    simp only at hmem
    split at hmem
    · exact ⟨_, sent, hrequest, List.mem_singleton.mp hmem⟩
    · cases hmem

end Http

namespace WebService

def builtin (baseUrl : String) : WebService → Builtin
  | digitalOcean => .digitalOcean baseUrl
  | hetzner => .hetzner baseUrl
  | linode => .linode baseUrl
  | vultr => .vultr baseUrl

/-- A search refuses, or all its requests are built by one client, which has the token of the
configuration and a user agent that can be sent. -/
theorem refuses_or_builds (s : WebService) (baseUrl : String) (userAgent : Option String)
    (world : World) (c : Config) :
    (s.find baseUrl userAgent world c).Refuses ∨ userAgent.all Http.isHeaderText = true ∧
      ∃ token, c.apiToken world.env s.tokenVariable = .ok token ∧
        ∀ logger, ∀ event ∈ ((s.find baseUrl userAgent world c).run logger).events,
          ∃ request, event = .web request ∧ s.Builds c ⟨baseUrl, userAgent, token⟩ request := by
  refine (s.refuses_or_questions baseUrl userAgent world c).imp_right ?_
  rintro ⟨hagent, token, htoken, hquestions⟩
  refine ⟨hagent, token, htoken, fun logger event hevent => ?_⟩
  obtain ⟨ι, request, leads, tell, first, asked, hall, hbuilds⟩ := hquestions logger
  obtain ⟨q, sent, hbuilt, hsent⟩ := Http.mem_events hall hevent
  exact ⟨sent, hsent, hbuilds q sent hbuilt⟩

/-- Once all checks of its arguments are passed, a search fails with a user agent that cannot be
sent, and asks for nothing. -/
theorem run_of_not_sendable (s : WebService) (baseUrl : String) {userAgent : String}
    {world : World} {c : Config} (hagent : Http.isHeaderText userAgent = false)
    (hchecks : firstFault ((s.builtin baseUrl).checks world.env c) = none) (logger : Logger) :
    let run := (s.find baseUrl (some userAgent) world c).run logger
    ∃ reason, run.result = .error (.requestFailed reason) ∧ run.events = [] := by
  intro run
  have hrefuses : (s.find baseUrl (some userAgent) world c).Refuses :=
    (s.refuses_or_builds baseUrl (some userAgent) world c).resolve_right fun h => by
      simp [hagent] at h
  obtain ⟨e, he⟩ := hrefuses
  obtain ⟨hresult, hevents⟩ := Prod.mk.inj (he logger)
  have hfind : (s.builtin baseUrl).provider.find = s.find baseUrl := by cases s <;> rfl
  have hguards := (s.builtin baseUrl).guards_find (some userAgent) world c
  rw [hfind] at hguards
  have hargument := hguards.result_eq_iff logger e
  rw [hchecks] at hargument
  cases e with
  | requestFailed reason => exact ⟨reason, hresult, hevents⟩
  | invalidProvider | malformedArgument | missingArgument =>
    exact absurd (hargument.mp ⟨hresult, rfl⟩) (by simp)

theorem addresses_told (s : WebService) (baseUrl : String) (agents : List String) (world : World)
    (c : Config) : ((s.builtin baseUrl).provider.told agents).addresses world c =
      s.find baseUrl agents.getLast? world c := by
  have hlast : agents.getLast?.or none = agents.getLast? := Option.or_none
  rw [← hlast]
  cases s <;> rfl

end WebService

namespace Registry
variable {start r : Registry} {steps later : List Step} {c : Config} {name : String} {p : Provider}

theorem discoverConfig_of_joins (hrun : run start steps = some r) (hname : c.provider = some name)
    (hjoins : Joins start steps name p later) (world : World) :
    r.discoverConfig world c =
      ((p.told (agents later)).addresses world c).mapError (.provider name) := by
  have hregistered : r.get? name = some (p.told (agents later)) :=
    (get?_run hrun).mpr ⟨p, later, hjoins, rfl⟩
  rw [discoverConfig, hname]
  simp only [hregistered]

end Registry

/-- All requests of a call are from the same client.

Whatever a registry went through, each request of a call is one that the client builds for something
its service is asked for. It authorizes itself with the token, and names the last user agent that
the registry was told of since the provider joined, or none. The filter depends on the configuration
and on what is asked for, not on the page. A user agent that cannot be sent makes the call fail
before there is a request. Calls of EC2 have nothing to do with user agents. -/
theorem requests_share_identity {start r : Registry} {steps : List Registry.Step} {c : Config}
    {name : String} (hrun : Registry.run start steps = some r) (hname : c.provider = some name)
    (world : World) (logger : Logger) :
    let run := (r.discoverConfig world c).run logger
    (∀ (s : WebService) (baseUrl : String) (later : List Registry.Step),
      Registry.Joins start steps name (s.builtin baseUrl).provider later →
      let agent := (Registry.agents later).getLast?
      (∀ fault, c.apiToken world.env s.tokenVariable = .error fault → run.events = []) ∧
      (∀ token, c.apiToken world.env s.tokenVariable = .ok token → ∀ event ∈ run.events,
        ∃ path query filter request, s.Asks c path filter ∧
          Http.Client.request ⟨baseUrl, agent, token⟩ path query filter = .ok request ∧
          event = .web request ∧ request.authorization = "Bearer " ++ token ∧
          request.userAgent = agent ∧ request.filter = filter) ∧
      ∀ userAgent, agent = some userAgent → Http.isHeaderText userAgent = false →
        firstFault ((s.builtin baseUrl).checks world.env c) = none →
        ∃ reason, run.result = .error (.provider name (.requestFailed reason)) ∧
          run.events = []) ∧
    ∀ later, Registry.Joins start steps name Ec2.provider later →
      r.discoverConfig world c = (Ec2.find none world c).mapError (.provider name) := by
  intro run
  refine ⟨fun s baseUrl later hjoins => ?_, fun later hjoins => ?_⟩
  · intro agent
    have hcall : r.discoverConfig world c =
        (s.find baseUrl agent world c).mapError (.provider name) := by
      rw [Registry.discoverConfig_of_joins hrun hname hjoins, s.addresses_told]
    have hrun' : run = ((s.find baseUrl agent world c).mapError (.provider name)).run logger :=
      congrArg (Call.run · logger) hcall
    rw [hrun', Call.run_mapError]
    have hsearch := s.refuses_or_builds baseUrl agent world c
    refine ⟨fun fault htoken => ?_, fun token htoken event hevent => ?_,
      fun userAgent hagent hsendable hchecks => ?_⟩
    · rcases hsearch with hrefuses | ⟨-, token, hfound, -⟩
      · exact hrefuses.events_eq_nil logger
      · rw [htoken] at hfound
        cases hfound
    · rcases hsearch with hrefuses | ⟨-, found, hfound, hbuilds⟩
      · rw [hrefuses.events_eq_nil logger] at hevent
        cases hevent
      · obtain rfl : token = found := Except.ok.inj (htoken.symm.trans hfound)
        obtain ⟨request, hrequest, path, query, filter, hasks, hbuilt⟩ :=
          hbuilds logger event hevent
        exact ⟨path, query, filter, request, hasks, hbuilt, hrequest,
          Http.Client.headers_of_request hbuilt⟩
    · rw [hagent]
      obtain ⟨reason, hfailed, hnone⟩ := s.run_of_not_sendable baseUrl hsendable hchecks logger
      exact ⟨reason, by rw [hfailed]; rfl, hnone⟩
  · rw [Registry.discoverConfig_of_joins hrun hname hjoins]
    rfl

set_option maxRecDepth 4000 in
/-- Of three user agents the last one is sent, with the requests for both pages, and one with a line
break is not. -/
theorem requests_share_identity_sample :
    let hetzner := Hetzner.provider "http://[::1]:8080"
    let steps : List Registry.Step := [.setUserAgent "early", .register ⟨"hcloud", hetzner, false⟩,
      .setUserAgent "a", .setUserAgent "b"]
    let servers (next : String) : Http.Reply := .response 200
      ("[[[1,\"a\",[null,null],[[\"10.0.0.1\"]],[[\"fsn1\"]]]],[[" ++ next ++ "]]]")
    let world : World := { World.offline [] with web := [servers "2", servers "null"] }
    let c : Config := .ofList [("provider", "hcloud"), ("api_token", "t")]
    (∃ r, Registry.run .empty steps = some r ∧
      let run := (r.discoverConfig world c).run .discard
      run.result = .ok ["10.0.0.1", "10.0.0.1"] ∧ run.events.length = 2 ∧
        ∀ event ∈ run.events, ∃ request, event = .web request ∧
          request.authorization = "Bearer t" ∧ request.userAgent = some "b") ∧
    ∃ r, Registry.run .empty (steps ++ [.setUserAgent "\n"]) = some r ∧
      let run := (r.discoverConfig world c).run .discard
      ∃ reason, run.result = .error (.provider "hcloud" (.requestFailed reason)) ∧
        run.events = [] := by
  intro hetzner steps servers world c
  have hjoins (more : List Registry.Step) : Registry.Joins .empty (steps ++ more) "hcloud"
      (WebService.hetzner.builtin "http://[::1]:8080").provider
      ([.setUserAgent "a", .setUserAgent "b"] ++ more) :=
    .inr ⟨[.setUserAgent "early"], ⟨"hcloud", hetzner, false⟩, .empty, rfl, rfl, by decide, rfl,
      rfl⟩
  have hprovider : c.provider = some "hcloud" := by decide
  constructor
  · have hrun : Registry.run .empty (steps ++ []) = some _ := rfl
    refine ⟨_, hrun, by decide +kernel, by decide +kernel, fun event hevent => ?_⟩
    obtain ⟨hshared, -⟩ := requests_share_identity hrun hprovider world .discard
    obtain ⟨-, hsent, -⟩ := hshared .hetzner _ _ (hjoins [])
    obtain ⟨_, _, _, request, -, -, hrequest, htoken, hagent, -⟩ :=
      hsent "t" (by decide) event hevent
    exact ⟨request, hrequest, htoken, hagent⟩
  · have hrun : Registry.run .empty (steps ++ [.setUserAgent "\n"]) = some _ := rfl
    obtain ⟨hshared, -⟩ := requests_share_identity hrun hprovider world .discard
    obtain ⟨-, -, hfails⟩ := hshared .hetzner _ _ (hjoins [.setUserAgent "\n"])
    exact ⟨_, hrun, hfails "\n" rfl (by decide) (by decide)⟩

end NodeDiscovery
