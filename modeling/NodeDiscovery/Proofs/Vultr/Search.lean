import NodeDiscovery.Proofs.Http.Search
import NodeDiscovery.Proofs.Http.Service
import NodeDiscovery.Proofs.Listing
import NodeDiscovery.Provider.Vultr

/-! What a search for instances comes to: the addresses of those that were listed and are wanted, or
the failure of the listing. -/
namespace NodeDiscovery.Vultr
variable {client : Http.Client} {world : World} {c : Config}

def Instance.record (i : Instance) : Record :=
  ⟨.info, target, s!"Found instance {i.label} ({i.id}) with private IP: {i.internalIp}"⟩

theorem writes_report {ε : Type} (i : Instance) :
    (report i : Call ε (List String)).Writes [i.internalIp] [i.record] :=
  Call.writes_log_pure _ _ _ _

theorem silent_instances (client : Http.Client) (tag : String) (replies : List Http.Reply) :
    (instances client tag replies).Silent :=
  (Call.silent_ofExcept _).bind fun _ =>
    (Listing.silent_pages (fun _ => Http.silent_fetch _ _) "" replies).bind
      fun _ => Call.silent_ofExcept _

structure Criteria where
  region : String
  tag : String

def criteriaOf (c : Config) : Criteria := ⟨c.getD "region", c.getD "tag_name"⟩

def tell (criteria : Criteria) (found : List Instance) : Call ProviderError (List String) := do
  let addresses ← Call.gather report (found.filter (Instance.isWanted criteria.region))
  Call.log .debug target ("Found ip addresses: " ++ Text.quotedList addresses)
  return addresses

theorem writes_tell (criteria : Criteria) (found : List Instance) :
    let wanted := found.filter (Instance.isWanted criteria.region)
    (tell criteria found).Writes (wanted.flatMap fun i => [i.internalIp])
      ((wanted.flatMap fun i => [i.record]) ++ [⟨.debug, target, "Found ip addresses: " ++
        Text.quotedList (wanted.flatMap fun i => [i.internalIp])⟩]) :=
  (Call.writes_gather writes_report _).bind (Call.writes_log_pure _ _ _ _)

def search : WebSearch where
  name := providerName
  tokenVariable := "VULTR_API_KEY"
  target := target
  Options := Criteria
  Found := List Instance
  options c := return criteriaOf c
  opening criteria := "Using region=" ++ criteria.region ++ " tag_name=" ++ criteria.tag
  ask client criteria replies := (instances client criteria.tag replies).mapError
    fun fault => .requestFailed fault.message
  tell _ := tell
  plain_options _ := Call.plain_ofExcept _
  silent_ask client criteria replies := (silent_instances client criteria.tag replies).mapError _
  accepts_ask _ _ _ := Call.accepts_mapError fun _ => rfl
  refuses_ask _ _ _ h := (Http.Client.refuses_connect h _).mapError _
  transparent_tell _ criteria found := (writes_tell criteria found).transparent
  accepts_tell _ criteria found := (writes_tell criteria found).quiet.accepts

theorem find_eq (baseUrl : String) (userAgent : Option String) (world : World) (c : Config) :
    find baseUrl userAgent world c = (search.toSearch baseUrl userAgent).find world c := by
  simp only [Search.find, WebSearch.toSearch, WebSearch.settle, search, bind_assoc, pure_bind]
  rfl

def addresses (c : Config) (listed : List Instance) : List String :=
  (listed.filter (Instance.isWanted (c.getD "region"))).map Instance.internalIp

theorem outcome_find (h : c.Employs world.env providerName "VULTR_API_KEY" client)
    (logger : Logger) :
    (find client.baseUrl client.userAgent world c).outcome logger =
      let listed := (instances client (c.getD "tag_name") world.web).outcome logger
      ((listed.1.mapError fun fault => ProviderError.requestFailed fault.message).map
        (addresses c), listed.2) := by
  rw [find_eq, WebSearch.outcome_find (w := search) h (Call.quiet_pure (criteriaOf c))]
  refine Call.outcome_bind_quiet (fun listed => ?_) logger
  have htold := (writes_tell (criteriaOf c) listed).quiet
  rwa [← List.map_eq_flatMap] at htold

/-- The API as a server of questions, which are the cursors of pages. -/
def service (client : Http.Client) (tag : String) : Service String Http.Reply Http.Fault :=
  Http.service (fun cursor => client.request "/v2/instances" (query tag cursor) none)
    fun cursor j => (Page.ofJson? j).map ((listing client tag).next cursor)

theorem allOrNothing_find (h : c.Employs world.env providerName "VULTR_API_KEY" client)
    (logger : Logger) :
    ∃ asked, (service client (c.getD "tag_name")).AllOrNothing
      (fun _ => Http.Fault.message) world.web "" asked
      ((find client.baseUrl client.userAgent world c).outcome logger) := by
  rw [outcome_find h, instances, h.connect, (Call.quiet_ofExcept client).outcome_bind]
  exact Service.allOrNothing_of_pages rfl (fun _ reply => Http.settles_fetch rfl reply logger)
    "" world.web _ _

end NodeDiscovery.Vultr
