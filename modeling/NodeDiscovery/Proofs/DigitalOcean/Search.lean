import NodeDiscovery.Proofs.DigitalOcean.Tags
import NodeDiscovery.Proofs.Http.Search
import NodeDiscovery.Proofs.Http.Service
import NodeDiscovery.Proofs.Listing

/-! What a search for droplets comes to: the addresses of those that were listed and are wanted, or
the failure of the listing. -/
namespace NodeDiscovery.DigitalOcean
variable {client : Http.Client} {world : World} {c : Config} {first : String} {rest : List String}

def Droplet.records (d : Droplet) : List Record :=
  d.privateAddresses.map fun address =>
    ⟨.info, target, s!"Found instance {d.name} ({d.id}) with private IP: {address}"⟩

theorem writes_report {ε : Type} (d : Droplet) :
    (report d : Call ε (List String)).Writes d.privateAddresses d.records :=
  Call.writes_gather_log _ _ _ _

theorem silent_droplets (client : Http.Client) (tag : String) (replies : List Http.Reply) :
    (droplets client tag replies).Silent :=
  (Call.silent_ofExcept _).bind fun _ =>
    (Listing.silent_pages (fun _ => Http.silent_fetch _ _) 1 replies).bind
      fun _ => Call.silent_ofExcept _

/-- What droplets have to be like: in the region, if one is given, and with all the tags. -/
structure Criteria where
  region : Option String
  first : String
  rest : List String

def Criteria.isMetBy (criteria : Criteria) (d : Droplet) : Bool :=
  d.isWanted criteria.region (criteria.first :: criteria.rest)

def criteria (c : Config) : Call ProviderError Criteria := do
  let (first, rest) ← Call.ofExcept (tags c)
  return ⟨c.nonempty? "region", first, rest⟩

theorem quiet_criteria_iff {criteria : Criteria} :
    (DigitalOcean.criteria c).Quiet criteria ↔
      criteria.region = c.nonempty? "region" ∧
        tags c = .ok (criteria.first, criteria.rest) := by
  obtain ⟨region, first, rest⟩ := criteria
  unfold DigitalOcean.criteria
  constructor
  · intro h
    obtain ⟨required, htags, hcriteria⟩ := Call.run_bind_eq_ok (congrArg Prod.fst (h .discard))
    obtain ⟨rfl, rfl, rfl⟩ := Criteria.mk.inj (Except.ok.inj hcriteria)
    exact ⟨rfl, htags⟩
  · rintro ⟨rfl, htags⟩
    rw [htags]
    exact (Call.quiet_ofExcept _).bind (Call.quiet_pure _)

def tell (criteria : Criteria) (found : List Droplet) : Call ProviderError (List String) := do
  Call.log .debug target s!"Found {found.length} droplets"
  let addresses ← Call.gather report (found.filter criteria.isMetBy)
  Call.log .debug target ("Found ip addresses: " ++ Text.quotedList addresses)
  return addresses

theorem writes_tell (criteria : Criteria) (found : List Droplet) :
    (tell criteria found).Writes ((found.filter criteria.isMetBy).flatMap Droplet.privateAddresses)
      (⟨.debug, target, s!"Found {found.length} droplets"⟩ ::
        ((found.filter criteria.isMetBy).flatMap Droplet.records ++ [⟨.debug, target,
          "Found ip addresses: " ++ Text.quotedList
            ((found.filter criteria.isMetBy).flatMap Droplet.privateAddresses)⟩])) :=
  (Call.writes_log _ _ _).bind
    ((Call.writes_gather writes_report _).bind (Call.writes_log_pure _ _ _ _))

def search : WebSearch where
  name := providerName
  tokenVariable := "DIGITALOCEAN_TOKEN"
  target := target
  Options := Criteria
  Found := List Droplet
  options := criteria
  opening criteria := "Using region=" ++ criteria.region.getD "" ++ " tag_names=" ++
    ",".intercalate (criteria.first :: criteria.rest)
  ask client criteria replies := (droplets client criteria.first replies).mapError
    fun fault => .requestFailed fault.message
  tell _ := tell
  plain_options _ := (Call.plain_ofExcept _).bind fun _ => Call.plain_ofExcept _
  silent_ask client criteria replies := (silent_droplets client criteria.first replies).mapError _
  accepts_ask _ _ _ := Call.accepts_mapError fun _ => rfl
  refuses_ask _ _ _ h := (Http.Client.refuses_connect h _).mapError _
  transparent_tell _ criteria found := (writes_tell criteria found).transparent
  accepts_tell _ criteria found := (writes_tell criteria found).quiet.accepts

theorem find_eq (baseUrl : String) (userAgent : Option String) (world : World) (c : Config) :
    find baseUrl userAgent world c = (search.toSearch baseUrl userAgent).find world c := by
  simp only [Search.find, WebSearch.toSearch, WebSearch.settle, search, criteria, bind_assoc,
    pure_bind]
  rfl

def addressesAmong (c : Config) (required : List String) (listed : List Droplet) : List String :=
  (listed.filter (Droplet.isWanted (c.nonempty? "region") required)).flatMap
    Droplet.privateAddresses

theorem outcome_find (h : c.Employs world.env providerName "DIGITALOCEAN_TOKEN" client)
    (hrequires : Requires c (first :: rest))
    (logger : Logger) :
    (find client.baseUrl client.userAgent world c).outcome logger =
      let listed := (droplets client first world.web).outcome logger
      ((listed.1.mapError fun fault => ProviderError.requestFailed fault.message).map
        (addressesAmong c (first :: rest)), listed.2) := by
  let criteria : Criteria := ⟨c.nonempty? "region", first, rest⟩
  have hcriteria : (DigitalOcean.criteria c).Quiet criteria :=
    quiet_criteria_iff.mpr ⟨rfl, tags_eq_ok_iff.mpr hrequires⟩
  rw [find_eq, WebSearch.outcome_find (w := search) h hcriteria]
  exact Call.outcome_bind_quiet (fun listed => (writes_tell criteria listed).quiet) logger

/-- The API as a server of questions, which are the numbers of pages. -/
def service (client : Http.Client) (tag : String) : Service Int32 Http.Reply Http.Fault :=
  Http.service (fun page => client.request "/v2/droplets"
      [("page", toString page), ("per_page", toString perPage), ("tag_name", tag)] none)
    fun page j => (pageOfJson? j).map ((listing client tag).next page)

theorem allOrNothing_find (h : c.Employs world.env providerName "DIGITALOCEAN_TOKEN" client)
    (hrequires : Requires c (first :: rest)) (logger : Logger) :
    ∃ asked, (service client first).AllOrNothing (fun _ => Http.Fault.message) world.web 1 asked
      ((find client.baseUrl client.userAgent world c).outcome logger) := by
  rw [outcome_find h hrequires, droplets, h.connect, (Call.quiet_ofExcept client).outcome_bind]
  exact Service.allOrNothing_of_pages rfl (fun _ reply => Http.settles_fetch rfl reply logger)
    1 world.web _ _

end NodeDiscovery.DigitalOcean
