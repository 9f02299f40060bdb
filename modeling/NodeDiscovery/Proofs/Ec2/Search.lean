import NodeDiscovery.Proofs.Listing
import NodeDiscovery.Proofs.Search
import NodeDiscovery.Proofs.Session
import NodeDiscovery.Provider.Ec2
import Mathlib.Data.List.Basic

/-! What a search for instances comes to: the addresses of those that were listed, or the failure of
the listing. -/
namespace NodeDiscovery

theorem Config.nonempty?_of_required {c : Config} {key value : String}
    (h : c.required key = .ok value) : c.nonempty? key = some value := by
  unfold required at h
  split at h
  · next hvalue => rw [hvalue, Except.ok.inj h]
  · cases h

namespace Ec2
variable {world : World} {c : Config} {q : Query}

/-- The region that a configuration means, or else that of the environment. A name of none means
nothing. -/
def regionOf (c : Config) (env : Environment) : Option Region :=
  ((c.nonempty? "region").map Region.ofText?).getD (some (.ofEnvironment env))

/-- The configuration asks for `q`: it names a tag, and what it says of the kind of addresses and of
the region has a meaning. The region is reached at the endpoint that it gives, if it does. -/
structure Poses (c : Config) (env : Environment) (q : Query) : Prop where
  provider : c.provider = some providerName
  tagKey : c.nonempty? "tag_key" = some q.tagKey
  tagValue : c.nonempty? "tag_value" = some q.tagValue
  kind : addressKind c = .ok q.kind
  region : (regionOf c env).map (·.reachedAt (c.nonempty? "endpoint")) = some q.region

def credentialsOf (c : Config) (env : Environment) : Option Credentials :=
  match c.nonempty? "access_key_id", c.nonempty? "secret_access_key" with
  | some accessKey, some secretKey => some ⟨accessKey, secretKey, c.nonempty? "session_token"⟩
  | _, _ => environmentCredentials? env

theorem quiet_credentials {ε : Type} (c : Config) (env : Environment) :
    (credentials c env : Call ε (Option Credentials)).Quiet (credentialsOf c env) := by
  unfold credentials credentialsOf
  cases c.nonempty? "access_key_id" with
  | none => exact (Call.quiet_log _ _ _).bind (Call.quiet_pure _)
  | some accessKey =>
    cases c.nonempty? "secret_access_key" <;>
      exact (Call.quiet_log _ _ _).bind (Call.quiet_pure _)

theorem plain_credentials {ε : Type} (c : Config) (env : Environment) :
    (credentials c env : Call ε (Option Credentials)).Plain := by
  unfold credentials
  split <;> exact (Call.writes_log_pure _ _ _ _).plain

theorem plain_region (c : Config) (env : Environment) : (region c env).Plain := by
  unfold region
  split
  · split <;> exact Call.plain_ofExcept _
  · exact (Call.writes_log_pure _ _ _ _).plain

theorem quiet_region_iff {env : Environment} {chosen : Region} :
    (region c env).Quiet chosen ↔ regionOf c env = some chosen := by
  unfold region regionOf
  cases c.nonempty? "region" with
  | none =>
    have htold := (Call.writes_log_pure (ε := ProviderError) .info target
      "Region not provided. Using the region of the environment"
      (Region.ofEnvironment env)).quiet
    exact ⟨fun h => congrArg some (htold.unique h), fun h => Option.some.inj h ▸ htold⟩
  | some value =>
    simp only [Option.map_some, Option.getD_some]
    cases Region.ofText? value with
    | none =>
      constructor
      · intro h
        cases (congrArg Prod.fst (h .discard) : Except.error _ = .ok chosen)
      · exact nofun
    | some found =>
      exact ⟨fun h => congrArg some ((Call.quiet_pure found).unique h),
        fun h => Option.some.inj h ▸ Call.quiet_pure found⟩

theorem plain_query (c : Config) (env : Environment) : (query c env).Plain := by
  refine (Call.plain_ofExcept _).bind fun _ => (Call.plain_ofExcept _).bind fun _ =>
    (Call.plain_ofExcept _).bind fun _ => (plain_region c env).bind fun _ => ?_
  split
  · exact (Call.writes_log_pure _ _ _ _).plain
  · exact Call.plain_ofExcept _

theorem quiet_query {env : Environment} (h : Poses c env q) : (query c env).Quiet q := by
  obtain ⟨tagKey, tagValue, kind, region⟩ := q
  obtain ⟨chosen, hchosen, hregion⟩ := Option.map_eq_some_iff.mp h.region
  obtain rfl : chosen.reachedAt (c.nonempty? "endpoint") = region := hregion
  unfold query
  rw [Config.required, h.tagKey, Config.required, h.tagValue, h.kind]
  refine (Call.quiet_ofExcept _).bind ((Call.quiet_ofExcept _).bind ((Call.quiet_ofExcept _).bind
    ((quiet_region_iff.mpr hchosen).bind ?_)))
  cases c.nonempty? "endpoint" with
  | none => exact Call.quiet_pure _
  | some endpoint => exact (Call.writes_log_pure _ _ _ _).quiet

theorem poses_of_quiet {env : Environment} (hprovider : c.provider = some providerName)
    (h : (query c env).Quiet q) : Poses c env q := by
  obtain ⟨tagKey, htagKey, h⟩ := Call.run_bind_eq_ok (congrArg Prod.fst (h .discard))
  obtain ⟨tagValue, htagValue, h⟩ := Call.run_bind_eq_ok h
  obtain ⟨kind, hkind, h⟩ := Call.run_bind_eq_ok h
  obtain ⟨chosen, hchosen, h⟩ := Call.run_bind_eq_ok h
  have hregion := quiet_region_iff.mp ((plain_region c env).quiet_of_ok hchosen)
  have hq : (⟨tagKey, tagValue, kind, chosen.reachedAt (c.nonempty? "endpoint")⟩ : Query) = q := by
    cases hendpoint : c.nonempty? "endpoint" with
    | none =>
      rw [hendpoint] at h
      exact Except.ok.inj h
    | some endpoint =>
      rw [hendpoint] at h
      exact Except.ok.inj h
  subst hq
  exact ⟨hprovider, Config.nonempty?_of_required htagKey, Config.nonempty?_of_required htagValue,
    hkind, congrArg _ hregion⟩

def Interface.addresses (i : Interface) : List String :=
  (i.ipv6.getD []).filterMap fun address => address

def Instance.addresses (kind : AddressKind) (i : Instance) : List String :=
  match kind with
  | .publicV4 => i.publicIp.toList
  | .publicV6 => (i.interfaces.getD []).flatMap Interface.addresses
  | .privateV4 | .privateV6 => i.privateIp.toList

def Reservation.members (r : Reservation) : List Instance := r.instances.getD []

def addressRecord (id adjective : String) : Option String → Record
  | some address => ⟨.info, target, s!"Instance {id} has {adjective} ip {address}"⟩
  | none => ⟨.debug, target, s!"Instance {id} has no {adjective} ip"⟩

def Interface.records (id : String) (i : Interface) : List Record :=
  let place := "NetworkInterfaceId " ++ i.id.getD ""
  match i.ipv6 with
  | none => [⟨.debug, target, s!"Instance {id} has no IPv6 on {place}"⟩]
  | some _ => i.addresses.map fun address =>
      ⟨.info, target, s!"Instance {id} has IPv6 {address} on {place}"⟩

def Instance.details (kind : AddressKind) (i : Instance) : List Record :=
  let id := i.id.getD ""
  match kind with
  | .publicV4 => [addressRecord id "public" i.publicIp]
  | .publicV6 =>
    let interfaces := i.interfaces.getD []
    ⟨.debug, target, s!"Instance {id} has {interfaces.length} network interfaces"⟩ ::
      interfaces.flatMap (Interface.records id)
  | .privateV4 | .privateV6 => [addressRecord id "private" i.privateIp]

/-- An instance is named before anything else is told of it. -/
def Instance.records (kind : AddressKind) (i : Instance) : List Record :=
  ⟨.debug, target, "Found instance " ++ i.id.getD ""⟩ :: i.details kind

/-- A reservation is named, and then its instances follow. -/
def Reservation.records (kind : AddressKind) (r : Reservation) : List Record :=
  let id := r.id.getD ""
  ⟨.debug, target, s!"Reservation {id} has {r.members.length} instances"⟩ ::
    r.members.flatMap (Instance.records kind)

theorem writes_reportAddress {ε : Type} (id adjective : String) (address : Option String) :
    (reportAddress id adjective address : Call ε (List String)).Writes address.toList
      [addressRecord id adjective address] := by
  cases address <;> exact Call.writes_log_pure _ _ _ _

theorem writes_reportInterface {ε : Type} (id : String) (i : Interface) :
    (reportInterface id i : Call ε (List String)).Writes i.addresses (i.records id) := by
  unfold reportInterface Interface.records Interface.addresses
  cases i.ipv6 with
  | none => exact Call.writes_log_pure _ _ _ _
  | some addresses => exact Call.writes_gather_log _ _ _ _

theorem writes_reportInstance {ε : Type} (kind : AddressKind) (i : Instance) :
    (reportInstance kind i : Call ε (List String)).Writes (i.addresses kind)
      (i.records kind) := by
  unfold reportInstance
  refine (Call.writes_log _ _ _).bind ?_
  cases kind with
  | publicV4 => exact writes_reportAddress _ _ _
  | publicV6 =>
    exact (Call.writes_log _ _ _).bind (Call.writes_gather (writes_reportInterface _) _)
  | privateV4 => exact writes_reportAddress _ _ _
  | privateV6 => exact writes_reportAddress _ _ _

theorem writes_reportReservation {ε : Type} (kind : AddressKind) (r : Reservation) :
    (reportReservation kind r : Call ε (List String)).Writes
      (r.members.flatMap (Instance.addresses kind)) (r.records kind) :=
  (Call.writes_log _ _ _).bind (Call.writes_gather (writes_reportInstance kind) r.members)

theorem silent_fetch (credentials : Option Credentials) (q : Query) (token : Option String)
    (reply : Reply) : (fetch credentials q token reply).Silent := by
  intro logger
  cases credentials with
  | none => rfl
  | some credentials =>
    simp only [fetch]
    cases credentials.isSendable with
    | false => rfl
    | true => cases reply.isReceived <;> rfl

theorem silent_reservations (credentials : Option Credentials) (q : Query)
    (replies : List Reply) : (reservations credentials q replies).Silent :=
  (Listing.silent_pages (silent_fetch credentials q) none replies).bind
    fun _ => Call.silent_ofExcept _

def tell (kind : AddressKind) (found : List Reservation) : Call ProviderError (List String) := do
  Call.log .debug target s!"Found {found.length} reservations"
  let addresses ← Call.gather (reportReservation kind) found
  Call.log .debug target ("Found ip addresses: " ++ Text.quotedList addresses)
  return addresses

def addresses (kind : AddressKind) (listed : List Reservation) : List String :=
  (listed.flatMap Reservation.members).flatMap (Instance.addresses kind)

theorem writes_tell (kind : AddressKind) (found : List Reservation) :
    (tell kind found).Writes (addresses kind found)
      (⟨.debug, target, s!"Found {found.length} reservations"⟩ ::
        (found.flatMap (Reservation.records kind) ++ [⟨.debug, target,
          "Found ip addresses: " ++ Text.quotedList (addresses kind found)⟩])) := by
  rw [addresses, List.flatMap_assoc]
  exact (Call.writes_log _ _ _).bind
    ((Call.writes_gather (writes_reportReservation kind) found).bind
      (Call.writes_log_pure _ _ _ _))

def settle (env : Environment) (c : Config) : Call ProviderError (Query × Option Credentials) := do
  let q ← query c env
  Call.log .info target s!"Filter instances with {q.tagKey}={q.tagValue}"
  let credentials ← credentials c env
  Call.log .debug target <| "Using region=" ++ q.region.name ++ " tag_key=" ++ q.tagKey ++
    " tag_value=" ++ q.tagValue ++ " addr_type=" ++ q.kind.name
  return (q, credentials)

theorem quiet_settle (h : Poses c world.env q) :
    (settle world.env c).Quiet (q, credentialsOf c world.env) :=
  (quiet_query h).bind ((Call.quiet_log _ _ _).bind
    ((quiet_credentials c world.env).bind (Call.writes_log_pure _ _ _ _).quiet))

theorem of_quiet_settle {plan : Query × Option Credentials}
    (hprovider : c.provider = some providerName) (h : (settle world.env c).Quiet plan) :
    Poses c world.env plan.1 ∧ plan.2 = credentialsOf c world.env := by
  obtain ⟨q, hq, h⟩ := Call.run_bind_eq_ok (congrArg Prod.fst (h .discard))
  obtain ⟨_, -, h⟩ := Call.run_bind_eq_ok h
  obtain ⟨signing, hsigning, h⟩ := Call.run_bind_eq_ok h
  obtain rfl := Except.ok.inj h
  exact ⟨poses_of_quiet hprovider ((plain_query c world.env).quiet_of_ok hq),
    ((quiet_credentials c world.env).eq hsigning).symm⟩

def search : Search where
  name := providerName
  Plan := Query × Option Credentials
  Found := List Reservation
  settle := settle
  ask world plan := (reservations plan.2 plan.1 world.ec2).mapError
    fun fault => .requestFailed ("DescribeInstances failed: " ++ fault.message)
  tell plan := tell plan.1.kind
  plain_settle env c := (plain_query c env).bind fun _ => (Call.writes_log _ _ _).plain.bind
    fun _ => (plain_credentials c env).bind fun _ => (Call.writes_log_pure _ _ _ _).plain
  silent_ask world plan := (silent_reservations plan.2 plan.1 world.ec2).mapError _
  accepts_ask _ _ := Call.accepts_mapError fun _ => rfl
  transparent_tell plan found := (writes_tell plan.1.kind found).transparent
  accepts_tell plan found := (writes_tell plan.1.kind found).quiet.accepts

theorem find_eq (userAgent : Option String) (world : World) (c : Config) :
    find userAgent world c = search.find world c := by
  simp only [Search.find, search, settle, bind_assoc, pure_bind]
  rfl

theorem outcome_find (h : Poses c world.env q) (userAgent : Option String)
    (logger : Logger) :
    (find userAgent world c).outcome logger =
      let listed := (reservations (credentialsOf c world.env) q world.ec2).outcome logger
      ((listed.1.mapError fun fault =>
        ProviderError.requestFailed ("DescribeInstances failed: " ++ fault.message)).map
          (addresses q.kind), listed.2) := by
  rw [find_eq, Search.outcome_find (s := search) h.provider (quiet_settle h)]
  exact Call.outcome_bind_quiet (fun listed => (writes_tell q.kind listed).quiet) logger

/-- What is wrong with a reply: none came, its status is not one of success, or it brings something
that is no page. -/
def Reply.fault? : Reply → Option Fault
  | .unreachable | .closed => some .lost
  | .page _ => none
  | .response status body =>
    if 200 ≤ status ∧ status < 300 then if body.isEmpty then none else some .undecodable
    else some (.refused body)

/-- The service as a server of questions, which are the tokens of pages. Without credentials that
can be sent every question fails by itself. -/
def service (credentials : Option Credentials) (q : Query) :
    Service (Option String) Reply Fault where
  events token reply := match credentials with
    | none => []
    | some credentials =>
      if credentials.isSendable && reply.isReceived then
        [.ec2 ⟨credentials, q.region, listingParameters q.tagKey q.tagValue token⟩]
      else []
  fault? _ reply := match credentials with
    | none => some .noCredentials
    | some credentials => if credentials.isSendable then reply.fault? else some .malformedHeader
  next _ reply := match reply.page? with
    | .ok page => (page.nextToken.filter (· ≠ "")).map some
    | .error _ => none
  spent := .notFound
  spent_faulty _ := by
    cases credentials with
    | none => rfl
    | some credentials =>
      cases h : credentials.isSendable <;> simp [h, Reply.fault?, Reply.notFound]

theorem Reply.page?_cases (reply : Reply) :
    match reply.fault? with
    | some fault => reply.page? = .error fault
    | none => ∃ page, reply.page? = .ok page := by
  cases reply with
  | unreachable => rfl
  | closed => rfl
  | page page => exact ⟨page, rfl⟩
  | response status body =>
    by_cases hstatus : 200 ≤ status ∧ status < 300
    · by_cases hbody : body.isEmpty = true
      · simp [Reply.fault?, Reply.page?, hstatus, hbody]
      · simp [Reply.fault?, Reply.page?, hstatus, hbody]
    · simp [Reply.fault?, Reply.page?, hstatus]

theorem settles_fetch (credentials : Option Credentials) (q : Query) (token : Option String)
    (reply : Reply) (logger : Logger) :
    (service credentials q).Settles (fun _ fault => fault) ((listing credentials q).next token)
      token reply ((fetch credentials q token reply).outcome logger) := by
  cases credentials with
  | none => exact ⟨rfl, fun fault hfault => congrArg _ (Option.some.inj hfault), nofun⟩
  | some credentials =>
    cases hsendable : credentials.isSendable with
    | false =>
      simp only [service, fetch, hsendable]
      exact ⟨rfl, fun fault hfault => congrArg _ (Option.some.inj hfault), nofun⟩
    | true =>
      have hcases := reply.page?_cases
      have houtcome : (fetch (some credentials) q token reply).outcome logger =
          (reply.page?, (service (some credentials) q).events token reply) := by
        cases hreceived : reply.isReceived <;>
          simp [fetch, service, hsendable, hreceived, Call.outcome, Call.run_bind]
      rw [houtcome]
      refine ⟨rfl, fun fault hfault => ?_, fun hnone => ?_⟩
      · simp only [service, hsendable, if_true] at hfault
        rw [hfault] at hcases
        exact hcases
      · simp only [service, hsendable, if_true] at hnone
        rw [hnone] at hcases
        obtain ⟨page, hpage⟩ := hcases
        refine ⟨page, hpage, ?_⟩
        simp only [service, hpage]
        rfl

theorem allOrNothing_find (h : Poses c world.env q) (userAgent : Option String)
    (logger : Logger) :
    ∃ asked, (service (credentialsOf c world.env) q).AllOrNothing
      (fun _ fault => "DescribeInstances failed: " ++ fault.message) world.ec2 none asked
      ((find userAgent world c).outcome logger) := by
  rw [outcome_find h, reservations]
  exact Service.allOrNothing_of_pages (l := listing (credentialsOf c world.env) q) rfl
    (fun token reply => settles_fetch _ q token reply logger) none world.ec2 _ _

end Ec2
end NodeDiscovery
