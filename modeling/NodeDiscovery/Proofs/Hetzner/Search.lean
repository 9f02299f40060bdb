import NodeDiscovery.Proofs.Http.Search
import NodeDiscovery.Proofs.Http.Service
import NodeDiscovery.Proofs.Listing
import NodeDiscovery.Provider.Hetzner
import Mathlib.Data.List.Basic

/-! What a search for servers comes to: the addresses of those that were listed and are wanted, or
the failure of the listing. -/
namespace NodeDiscovery.Hetzner
variable {client : Http.Client} {world : World} {c : Config}

def kindOf (c : Config) : AddressKind :=
  match (c.nonempty? "address_type").bind AddressKind.ofName? with
  | none | some .privateV6 => .privateV4
  | some kind => kind

theorem quiet_addressKind {ε : Type} (c : Config) :
    (addressKind c : Call ε AddressKind).Quiet (kindOf c) := by
  unfold addressKind kindOf
  cases c.nonempty? "address_type" with
  | none => exact (Call.quiet_log _ _ _).bind (Call.quiet_pure _)
  | some value =>
    simp only [Option.bind_some]
    cases AddressKind.ofName? value with
    | none => exact (Call.quiet_log _ _ _).bind (Call.quiet_pure _)
    | some kind =>
      cases kind with
      | privateV6 => exact (Call.quiet_log _ _ _).bind (Call.quiet_pure _)
      | privateV4 => exact Call.quiet_pure _
      | publicV4 => exact Call.quiet_pure _
      | publicV6 => exact Call.quiet_pure _

theorem plain_addressKind {ε : Type} (c : Config) : (addressKind c : Call ε AddressKind).Plain := by
  unfold addressKind
  split
  · exact (Call.writes_log_pure _ _ _ _).plain
  · split
    · exact (Call.writes_log_pure _ _ _ _).plain
    · exact (Call.writes_log_pure _ _ _ _).plain
    · exact Call.plain_ofExcept _

def Server.record (kind : AddressKind) (s : Server) : Record :=
  let who := s!"instance {s.name} ({s.id})"
  match s.address? kind with
  | some ip => ⟨.info, target, s!"{who} has {kind.name} IP {ip}"⟩
  | none => ⟨.debug, target, s!"{who} has no valid associated IP address"⟩

theorem writes_report {ε : Type} (kind : AddressKind) (s : Server) :
    (report kind s : Call ε (List String)).Writes (s.address? kind).toList [s.record kind] := by
  unfold report Server.record
  cases s.address? kind <;> exact Call.writes_log_pure _ _ _ _

theorem silent_servers (client : Http.Client) (selector : String) (replies : List Http.Reply) :
    (servers client selector replies).Silent :=
  (Call.silent_ofExcept _).bind fun _ =>
    (Listing.silent_pages (fun _ => Http.silent_fetch _ _) 1 replies).bind
      fun _ => Call.silent_ofExcept _

/-- What servers have to be like, and the kind of their addresses that is looked for. -/
structure Criteria where
  kind : AddressKind
  selector : String
  location : Option String

def Criteria.isMetBy (criteria : Criteria) (s : Server) : Bool :=
  criteria.location.all (s.location = ·)

def criteria (c : Config) : Call ProviderError Criteria := do
  let kind ← addressKind c
  return ⟨kind, c.getD "label_selector", c.nonempty? "location"⟩

def criteriaOf (c : Config) : Criteria :=
  ⟨kindOf c, c.getD "label_selector", c.nonempty? "location"⟩

theorem quiet_criteria (c : Config) : (criteria c).Quiet (criteriaOf c) :=
  (quiet_addressKind c).bind (Call.quiet_pure _)

def tell (criteria : Criteria) (found : List Server) : Call ProviderError (List String) := do
  let addresses ← Call.gather (report criteria.kind) (found.filter criteria.isMetBy)
  Call.log .debug target ("found IP addresses: " ++ Text.quotedList addresses)
  return addresses

def addressesAmong (criteria : Criteria) (listed : List Server) : List String :=
  (listed.filter criteria.isMetBy).flatMap fun s => (s.address? criteria.kind).toList

theorem writes_tell (criteria : Criteria) (found : List Server) :
    (tell criteria found).Writes (addressesAmong criteria found)
      (((found.filter criteria.isMetBy).flatMap fun s => [s.record criteria.kind]) ++
        [⟨.debug, target,
          "found IP addresses: " ++ Text.quotedList (addressesAmong criteria found)⟩]) :=
  (Call.writes_gather (writes_report criteria.kind) _).bind (Call.writes_log_pure _ _ _ _)

def search : WebSearch where
  name := providerName
  tokenVariable := "HCLOUD_TOKEN"
  target := target
  Options := Criteria
  Found := List Server
  options := criteria
  opening criteria := "using address_type=" ++ criteria.kind.name ++ " label_selector=" ++
    criteria.selector ++ " location=" ++ criteria.location.getD ""
  ask client criteria replies := (servers client criteria.selector replies).mapError
    fun fault => .requestFailed fault.message
  tell _ := tell
  plain_options c := (plain_addressKind c).bind fun _ => Call.plain_ofExcept _
  silent_ask client criteria replies :=
    (silent_servers client criteria.selector replies).mapError _
  accepts_ask _ _ _ := Call.accepts_mapError fun _ => rfl
  refuses_ask _ _ _ h := (Http.Client.refuses_connect h _).mapError _
  transparent_tell _ criteria found := (writes_tell criteria found).transparent
  accepts_tell _ criteria found := (writes_tell criteria found).quiet.accepts

theorem find_eq (baseUrl : String) (userAgent : Option String) (world : World) (c : Config) :
    find baseUrl userAgent world c = (search.toSearch baseUrl userAgent).find world c := by
  simp only [Search.find, WebSearch.toSearch, WebSearch.settle, search, criteria, bind_assoc,
    pure_bind]
  rfl

def addresses (c : Config) (listed : List Server) : List String :=
  (listed.filter fun s => (c.nonempty? "location").all (s.location = ·)).filterMap
    (Server.address? (kindOf c))

theorem addressesAmong_criteriaOf (c : Config) (listed : List Server) :
    addressesAmong (criteriaOf c) listed = addresses c listed :=
  (List.filterMap_eq_flatMap_toList _ _).symm

theorem outcome_find (h : c.Employs world.env providerName "HCLOUD_TOKEN" client)
    (logger : Logger) :
    (find client.baseUrl client.userAgent world c).outcome logger =
      let listed := (servers client (c.getD "label_selector") world.web).outcome logger
      ((listed.1.mapError fun fault => ProviderError.requestFailed fault.message).map
        (addresses c), listed.2) := by
  rw [find_eq, WebSearch.outcome_find (w := search) h (quiet_criteria c)]
  refine Call.outcome_bind_quiet (fun (listed : List Server) => ?_) logger
  have htold := (writes_tell (criteriaOf c) listed).quiet
  rwa [addressesAmong_criteriaOf] at htold

/-- The API as a server of questions, which are the numbers of pages. -/
def service (client : Http.Client) (selector : String) :
    Service UInt32 Http.Reply Http.Fault :=
  Http.service (fun page => client.request "/v1/servers" (query selector page) none)
    fun page j => (Page.ofJson? j).map ((listing client selector).next page)

theorem allOrNothing_find (h : c.Employs world.env providerName "HCLOUD_TOKEN" client)
    (logger : Logger) :
    ∃ asked, (service client (c.getD "label_selector")).AllOrNothing
      (fun _ => Http.Fault.message) world.web 1 asked
      ((find client.baseUrl client.userAgent world c).outcome logger) := by
  rw [outcome_find h, servers, h.connect, (Call.quiet_ofExcept client).outcome_bind]
  exact Service.allOrNothing_of_pages rfl (fun _ reply => Http.settles_fetch rfl reply logger)
    1 world.web _ _

end NodeDiscovery.Hetzner
