import NodeDiscovery.Proofs.Http.Search
import NodeDiscovery.Proofs.Http.Service
import NodeDiscovery.Proofs.Listing
import NodeDiscovery.Provider.Linode

/-! What a search for instances comes to: the addresses of those that were listed, for which each of
them may have to be asked about, or the first failure. -/
namespace NodeDiscovery.Linode
variable {client : Http.Client} {world : World} {c : Config} {kind : AddressKind}

def Instance.records (kind : AddressKind) (i : Instance) (addresses : List String) :
    List Record :=
  addresses.map fun address =>
    ⟨.info, target, s!"Found instance {i.label} ({i.id}) with {kind.name} IP: {address}"⟩

theorem writes_report {ε : Type} (kind : AddressKind) (i : Instance) (addresses : List String) :
    (report kind i addresses : Call ε (List String)).Writes addresses
      (i.records kind addresses) :=
  Call.writes_gather_log _ _ _ _

theorem silent_instances (client : Http.Client) (filter : String) (replies : List Http.Reply) :
    (instances client filter replies).Silent :=
  ((Listing.silent_pages (fun _ => Http.silent_fetch _ _) 1 replies).mapError _).bind
    fun _ => Call.silent_ofExcept _

theorem silent_linkLocal (client : Http.Client) (id : UInt64) (reply : Http.Reply) :
    (linkLocal client id reply).Silent :=
  ((Http.silent_fetch _ _ _).mapError _).bind fun _ => Call.silent_ofExcept _

theorem transparent_linkLocals (client : Http.Client) (listed : List Instance)
    (replies : List Http.Reply) : (linkLocals client listed replies).Transparent := by
  induction listed generalizing replies with
  | nil => exact Call.transparent_ofExcept _
  | cons i rest ih =>
    rw [linkLocals]
    exact (silent_linkLocal client i.id _).transparent.bind fun address =>
      (writes_report .privateV6 i address.toList).transparent.bind fun _ =>
      (ih replies.tail).bind fun _ => Call.transparent_ofExcept _

theorem accepts_linkLocals (client : Http.Client) (listed : List Instance)
    (replies : List Http.Reply) : (linkLocals client listed replies).Accepts := by
  induction listed generalizing replies with
  | nil => exact (Call.quiet_pure _).accepts
  | cons i rest ih =>
    rw [linkLocals]
    refine Call.Accepts.bind ?_ fun address =>
      (writes_report .privateV6 i address.toList).quiet.accepts.bind fun _ =>
      (ih replies.tail).bind fun _ => (Call.quiet_pure _).accepts
    exact (Call.accepts_mapError fun _ => rfl).bind fun _ => (Call.quiet_pure _).accepts

/-- The addresses of instances that were listed. For those that the listing does not tell of there
is more to ask, and the replies that it left are for that. -/
def addressesOf (client : Http.Client) (kind : AddressKind)
    (found : List Instance × List Http.Reply) : Call ProviderError (List String) :=
  if kind = .privateV6 then linkLocals client found.1 found.2
  else Call.gather (fun i => report kind i (i.addresses kind)) found.1

theorem writes_addressesOf (client : Http.Client) (hkind : kind ≠ .privateV6)
    (found : List Instance × List Http.Reply) :
    (addressesOf client kind found).Writes (found.1.flatMap (Instance.addresses kind))
      (found.1.flatMap fun i => i.records kind (i.addresses kind)) := by
  rw [addressesOf, if_neg hkind]
  exact Call.writes_gather (fun i => writes_report kind i (i.addresses kind)) found.1

theorem transparent_addressesOf (client : Http.Client) (kind : AddressKind)
    (found : List Instance × List Http.Reply) : (addressesOf client kind found).Transparent := by
  by_cases hkind : kind = .privateV6
  · subst hkind
    exact transparent_linkLocals client found.1 found.2
  · exact (writes_addressesOf client hkind found).transparent

theorem accepts_addressesOf (client : Http.Client) (kind : AddressKind)
    (found : List Instance × List Http.Reply) : (addressesOf client kind found).Accepts := by
  by_cases hkind : kind = .privateV6
  · subst hkind
    exact accepts_linkLocals client found.1 found.2
  · exact (writes_addressesOf client hkind found).quiet.accepts

structure Criteria where
  kind : AddressKind
  region : String
  tag : String

def Criteria.filter (criteria : Criteria) : String := instanceFilter criteria.region criteria.tag

def criteria (c : Config) : Call ProviderError Criteria := do
  let kind ← Call.ofExcept (c.parsed "address_type" AddressKind.read default)
  return ⟨kind, c.getD "region", c.getD "tag_name"⟩

theorem quiet_criteria_iff {criteria : Criteria} :
    (Linode.criteria c).Quiet criteria ↔
      c.parsed "address_type" AddressKind.read default = .ok criteria.kind ∧
        criteria.region = c.getD "region" ∧ criteria.tag = c.getD "tag_name" := by
  obtain ⟨kind, region, tag⟩ := criteria
  unfold Linode.criteria
  constructor
  · intro h
    obtain ⟨chosen, hkind, hcriteria⟩ := Call.run_bind_eq_ok (congrArg Prod.fst (h .discard))
    obtain ⟨rfl, rfl, rfl⟩ := Criteria.mk.inj (Except.ok.inj hcriteria)
    exact ⟨hkind, rfl, rfl⟩
  · rintro ⟨hkind, rfl, rfl⟩
    rw [hkind]
    exact (Call.quiet_ofExcept kind).bind (Call.quiet_pure _)

def opening (kind : AddressKind) (region tag : String) : Record :=
  ⟨.debug, target,
    "Using address_type=" ++ kind.name ++ " region=" ++ region ++ " tag_name=" ++ tag⟩

def closing (addresses : List String) : Record :=
  ⟨.debug, target, "Found ip addresses: " ++ Text.quotedList addresses⟩

def ask (client : Http.Client) (criteria : Criteria) (replies : List Http.Reply) :
    Call ProviderError (List Instance × List Http.Reply) := do
  let client ← (Call.ofExcept client.connect).mapError fun fault => .requestFailed fault.message
  instances client criteria.filter replies

theorem ask_of_connect (h : client.connect = .ok client) (criteria : Criteria)
    (replies : List Http.Reply) :
    ask client criteria replies = instances client criteria.filter replies := by
  rw [ask, h]
  exact pure_bind client fun client => instances client criteria.filter replies

theorem result_instances_of_ask {criteria : Criteria} {replies : List Http.Reply} {logger : Logger}
    {found : List Instance × List Http.Reply}
    (h : ((ask client criteria replies).run logger).result = .ok found) :
    ((instances client criteria.filter replies).run logger).result = .ok found := by
  by_cases hsendable : client.userAgent.all Http.isHeaderText = true
  · rwa [ask_of_connect (if_pos hsendable)] at h
  · rw [ask, Http.Client.connect_of_not_sendable hsendable] at h
    cases h

def tell (client : Http.Client) (criteria : Criteria)
    (found : List Instance × List Http.Reply) : Call ProviderError (List String) := do
  let addresses ← addressesOf client criteria.kind found
  Call.log .debug target (closing addresses).text
  return addresses

def search : WebSearch where
  name := providerName
  tokenVariable := "LINODE_TOKEN"
  target := target
  Options := Criteria
  Found := List Instance × List Http.Reply
  options := criteria
  opening criteria := (Linode.opening criteria.kind criteria.region criteria.tag).text
  ask := ask
  tell := tell
  plain_options _ := (Call.plain_ofExcept _).bind fun _ => Call.plain_ofExcept _
  silent_ask _ criteria replies := ((Call.silent_ofExcept _).mapError _).bind fun client =>
    silent_instances client criteria.filter replies
  accepts_ask _ _ _ := (Call.accepts_mapError fun _ => rfl).bind fun _ =>
    (Call.accepts_mapError fun _ => rfl).bind fun _ => (Call.quiet_pure _).accepts
  refuses_ask _ _ _ h := by
    rw [ask, Http.Client.connect_of_not_sendable h]
    exact ((Call.refuses_ofExcept _).mapError _).bind _
  transparent_tell client criteria found :=
    (transparent_addressesOf client criteria.kind found).bind
      fun _ => (Call.writes_log_pure _ _ _ _).transparent
  accepts_tell client criteria found := (accepts_addressesOf client criteria.kind found).bind
    fun _ => (Call.writes_log_pure _ _ _ _).quiet.accepts

theorem find_eq (baseUrl : String) (userAgent : Option String) (world : World) (c : Config) :
    find baseUrl userAgent world c = (search.toSearch baseUrl userAgent).find world c := by
  have htell (client : Http.Client) (criteria : Criteria)
      (found : List Instance × List Http.Reply) :
      tell client criteria found = (do
        let addresses ←
          if criteria.kind = .privateV6 then linkLocals client found.1 found.2
          else Call.gather (fun i => report criteria.kind i (i.addresses criteria.kind)) found.1
        Call.log .debug target (closing addresses).text
        return addresses) := by
    unfold tell addressesOf
    split <;> rfl
  -- The client that connects is the one that was to.
  have hask (client : Http.Client) (criteria : Criteria) :
      ask client criteria world.web >>= tell client criteria = (do
        let client ← (Call.ofExcept client.connect).mapError
          fun fault => .requestFailed fault.message
        let found ← instances client criteria.filter world.web
        tell client criteria found) := by
    by_cases hsendable : client.userAgent.all Http.isHeaderText = true
    · have hconnect : client.connect = .ok client := if_pos hsendable
      rw [ask_of_connect hconnect, hconnect]
      exact (pure_bind client fun client =>
        instances client criteria.filter world.web >>= tell client criteria).symm
    · rw [ask, Http.Client.connect_of_not_sendable hsendable]
      rfl
  simp only [Search.find, WebSearch.toSearch, WebSearch.settle, search, criteria, bind_assoc,
    pure_bind, hask]
  simp only [htell]
  rfl

theorem find_of_employs (h : c.Employs world.env providerName "LINODE_TOKEN" client)
    (hkind : c.parsed "address_type" AddressKind.read default = .ok kind) :
    find client.baseUrl client.userAgent world c = (do
      Call.log .debug target (opening kind (c.getD "region") (c.getD "tag_name")).text
      let found ← instances client (instanceFilter (c.getD "region") (c.getD "tag_name")) world.web
      let addresses ← addressesOf client kind found
      Call.log .debug target (closing addresses).text
      return addresses) := by
  have hcriteria : criteria c = pure ⟨kind, c.getD "region", c.getD "tag_name"⟩ := by
    rw [criteria, hkind]
    rfl
  rw [find_eq, WebSearch.find_of_employs (w := search) h]
  simp only [search, hcriteria, pure_bind, ask_of_connect h.connect]
  rfl

theorem outcome_find (h : c.Employs world.env providerName "LINODE_TOKEN" client)
    (hkind : c.parsed "address_type" AddressKind.read default = .ok kind) (logger : Logger) :
    (find client.baseUrl client.userAgent world c).outcome logger =
      (instances client (instanceFilter (c.getD "region") (c.getD "tag_name")) world.web >>=
        addressesOf client kind).outcome logger := by
  rw [find_of_employs h hkind, (Call.quiet_log _ _ _).outcome_bind]
  refine Call.outcome_bind_congr (fun found => ?_) _
  have hsame (o : Except ProviderError (List String) × List Event) : (o.1.map id, o.2) = o := by
    obtain ⟨result, events⟩ := o
    cases result <;> rfl
  exact (Call.outcome_bind_quiet (fun _ => (Call.writes_log_pure _ _ _ _).quiet) logger).trans
    (hsame _)

/-- What the API is asked: for a page of instances, with those that the pages before it list, or for
the addresses of an instance, with the others that are to be asked about after it. -/
inductive Question
  | page (number : UInt32) (listed : List UInt64)
  | ips (id : UInt64) (others : List UInt64)
deriving DecidableEq

namespace Question

def request (client : Http.Client) (filter : String) : Question → Except Http.Fault Http.Request
  | page number _ => client.request "/v4/linode/instances"
    [("page", toString number), ("page_size", toString pageSize)] (some filter)
  | ips id _ => client.request s!"/v4/linode/instances/{id}/ips" [] none

def about : List UInt64 → Option Question
  | [] => none
  | id :: others => some (ips id others)

/-- The question after a page that comes when those on the pages before it are known. -/
def after (kind : AddressKind) (listed : List UInt64) (found : Page) : Option Question :=
  let listed := listed ++ found.instances.map Instance.id
  if found.page < found.pages then some (page (found.page + 1) listed)
  else if kind = .privateV6 then about listed
  else none

/-- Where a document leads that answers a question. -/
def leads (kind : AddressKind) : Question → Json → Option (Option Question)
  | page _ listed, j => (Page.ofJson? j).map (after kind listed)
  | ips _ others, j => (ipsOfJson? j).map fun _ => about others

def tell : Question → Http.Fault → String
  | page .., fault => "Fetching Linode instances failed: " ++
    (ProviderError.requestFailed fault.message).message
  | ips id _, fault => s!"Fetching Linode IP address for instance {id} failed: " ++
    (ProviderError.requestFailed fault.message).message

def failure (question : Question) (fault : Http.Fault) : ProviderError :=
  .requestFailed (question.tell fault)

end Question

def service (client : Http.Client) (kind : AddressKind) (filter : String) :
    Service Question Http.Reply Http.Fault :=
  Http.service (Question.request client filter) (Question.leads kind)

def afterListing (kind : AddressKind) (listed : List Instance) : Option Question :=
  if kind = .privateV6 then Question.about (listed.map Instance.id) else none

theorem explains_instances (client : Http.Client) (kind : AddressKind) (filter : String)
    (replies : List Http.Reply) (logger : Logger) :
    ∃ asked, (service client kind filter).Explains Question.failure replies (some (.page 1 []))
      asked ((instances client filter replies).outcome logger)
        fun found later due => found.2 = later ∧ due = afterListing kind found.1 := by
  let ids (seen : List Page) : List UInt64 := (seen.flatMap Page.instances).map Instance.id
  have hleads (seen : List Page) (page : Page) : Question.after kind (ids seen) page =
      (((listing client filter).next 1 page).map fun number =>
        .page number (ids (seen ++ [page]))).or
        (afterListing kind ((seen ++ [page]).flatMap Page.instances)) := by
    have hids : ids seen ++ page.instances.map Instance.id = ids (seen ++ [page]) := by simp [ids]
    rw [Question.after, hids, listing]
    by_cases hmore : page.page < page.pages
    · simp [hmore]
    · simp [hmore, afterListing, ids]
  have hfetch (seen : List Page) (number : UInt32) (reply : Http.Reply) :
      (service client kind filter).Settles Question.failure
        (fun page => (((listing client filter).next number page).map fun number =>
          .page number (ids (seen ++ [page]))).or
            (afterListing kind ((seen ++ [page]).flatMap Page.instances)))
        (.page number (ids seen)) reply
        ((((listing client filter).fetch number reply).mapError
          (Question.page 1 []).failure).outcome logger) := by
    have hone : (service client kind filter).Settles (fun _ fault => fault)
        (Question.after kind (ids seen)) (.page number (ids seen)) reply
        (((listing client filter).fetch number reply).outcome logger) :=
      Http.settles_fetch rfl reply logger
    rw [funext (hleads seen)] at hone
    exact hone.mapError fun _ => rfl
  obtain ⟨asked, hpages⟩ := Service.explains_pages (fun seen number => .page number (ids seen))
    (fun seen => afterListing kind (seen.flatMap Page.instances)) rfl hfetch [] 1 replies
  refine ⟨asked, ?_⟩
  rw [instances, Call.outcome_bind_quiet fun _ => Call.quiet_pure _]
  exact hpages.map _ fun found later due h => h

theorem settles_linkLocal (client : Http.Client) (kind : AddressKind) (filter : String)
    (id : UInt64) (others : List UInt64) (reply : Http.Reply) (logger : Logger) :
    (service client kind filter).Settles Question.failure (fun _ => Question.about others)
      (.ips id others) reply ((linkLocal client id reply).outcome logger) := by
  have hfetch : (service client kind filter).Settles (fun _ fault => fault)
      (fun _ => Question.about others) (.ips id others) reply
      ((Http.fetch ipsOfJson? (client.request s!"/v4/linode/instances/{id}/ips" [] none)
        reply).outcome logger) := Http.settles_fetch rfl reply logger
  have htold := hfetch.mapError (f := (Question.ips id others).failure) fun _ => rfl
  rw [linkLocal, Call.outcome_bind_quiet fun _ => Call.quiet_pure _, Call.outcome_mapError]
  exact htold.map _ fun _ => rfl

theorem explains_linkLocals (client : Http.Client) (kind : AddressKind) (filter : String)
    (listed : List Instance) (replies : List Http.Reply) (logger : Logger) :
    ∃ asked, (service client kind filter).Explains Question.failure replies
      (Question.about (listed.map Instance.id)) asked
      ((linkLocals client listed replies).outcome logger) fun _ _ due => due = none := by
  induction listed generalizing replies with
  | nil => exact ⟨[], replies, none, .done replies none, fun _ _ => rfl⟩
  | cons i rest ih =>
    have hreply : replies.headD .notFound = (service client kind filter).reply replies 0 := by
      cases replies <;> rfl
    have hone := (settles_linkLocal client kind filter i.id (rest.map Instance.id)
      ((service client kind filter).reply replies 0) logger).explains replies
    rw [linkLocals, hreply]
    refine (hone.bind fun address later due hleads => ?_).elim fun more hall => ⟨_, hall⟩
    obtain ⟨rfl, rfl⟩ := hleads
    obtain ⟨more, hmore⟩ := ih replies.tail
    refine ⟨more, ?_⟩
    rw [(writes_report .privateV6 i address.toList).quiet.outcome_bind,
      Call.outcome_bind_quiet fun _ => Call.quiet_pure _]
    exact hmore.map _ fun _ _ _ h => h

theorem allOrNothing_find (h : c.Employs world.env providerName "LINODE_TOKEN" client)
    (hkind : c.parsed "address_type" AddressKind.read default = .ok kind) (logger : Logger) :
    ∃ asked,
      (service client kind (instanceFilter (c.getD "region") (c.getD "tag_name"))).AllOrNothing
        Question.tell world.web (.page 1 []) asked
        ((find client.baseUrl client.userAgent world c).outcome logger) := by
  obtain ⟨asked, hlisted⟩ := explains_instances client kind
    (instanceFilter (c.getD "region") (c.getD "tag_name")) world.web logger
  rw [outcome_find h hkind]
  refine (hlisted.bind (R := fun _ _ due => due = none) fun found later due hleads => ?_).elim
    fun more hall => ⟨asked ++ more, hall.allOrNothing fun _ _ _ h => h⟩
  obtain ⟨rfl, rfl⟩ := hleads
  by_cases hlocal : kind = .privateV6
  · subst hlocal
    exact explains_linkLocals client _ _ found.1 found.2 logger
  · rw [(writes_addressesOf client hlocal found).quiet logger, afterListing, if_neg hlocal]
    exact ⟨[], found.2, none, .done found.2 none, fun _ _ => rfl⟩

end NodeDiscovery.Linode
