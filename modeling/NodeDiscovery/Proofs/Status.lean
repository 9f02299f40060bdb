import NodeDiscovery.Proofs.Employment
import NodeDiscovery.Proofs.Token
import NodeDiscovery.Proofs.Walk

/-! The status check of web services. Which statuses end a search in failure, wherever they come,
and that all others are as good as each other. -/
namespace NodeDiscovery

namespace Http
variable {α β ι σ : Type}

/-- The statuses that no page comes with: those of errors, and those that forbid a body. -/
def Status.Fails (status : Nat) : Prop :=
  400 ≤ status ∧ status < 600 ∨ status = 204 ∨ status = 304

instance (status : Nat) : Decidable (Status.Fails status) := by
  unfold Status.Fails
  infer_instance

theorem Status.hasBody_of_not_fails {status : Nat} (h : ¬ Fails status) :
    hasBody status = true ∧ isClientError status = false ∧ isServerError status = false := by
  unfold Fails at h
  simp only [hasBody, isClientError, isServerError]
  refine ⟨?_, ?_, ?_⟩
  · simp
    omega
  · simp
    omega
  · simp
    omega

theorem Reply.response_of_fault {answers : Json → Bool} {url : String} {reply : Reply}
    (h : reply.fault? answers url = none) :
    ∃ status body, reply = .response status body ∧ ¬ Status.Fails status := by
  cases reply with
  | unreachable => cases h
  | closed => cases h
  | response status body =>
    refine ⟨status, body, rfl, ?_⟩
    rintro (hstatus | hstatus)
    · rw [fault?, if_pos hstatus] at h
      cases h
    · have hbody : Status.hasBody status = false := by
        rcases hstatus with rfl | rfl <;> rfl
      have hempty : Json.parse? "" = none := by decide +kernel
      have hgood : ¬ (400 ≤ status ∧ status < 600) := by omega
      rw [fault?, if_neg hgood, hbody, if_neg Bool.false_ne_true, hempty] at h
      cases h

/-- A search is judged by the statuses of the responses that it consumes, which are the first ones
of the script, one for each request that the service gets: it succeeds only if none of them fails,
and one that does makes the search fail. -/
structure Judged (script : List Reply) (o : Except ProviderError (List String) × List Event) :
    Prop where
  accepts : ∀ found, o.1 = .ok found → ∀ i < o.2.length, ∃ status body,
    script.getD i .notFound = .response status body ∧ ¬ Status.Fails status
  refuses : ∀ i < o.2.length, ∀ status body, script.getD i .notFound = .response status body →
    Status.Fails status → ∃ text, o.1 = .error (.requestFailed text)

theorem Judged.of_refuses {x : Call ProviderError (List String)} (h : x.Refuses)
    (script : List Reply) (logger : Logger) : Judged script (x.outcome logger) := by
  obtain ⟨e, he⟩ := h
  rw [he logger]
  constructor
  · intro found hfound
    cases hfound
  · intro i hi
    cases hi

theorem length_flatten_mapIdx_le {f : Nat → ι → List Event} (hf : ∀ i q, (f i q).length ≤ 1)
    (asked : List ι) : (asked.mapIdx f).flatten.length ≤ asked.length := by
  induction asked generalizing f with
  | nil => simp
  | cons q asked ih =>
    have hone := hf 0 q
    have hrest := ih fun i => hf (i + 1)
    rw [List.mapIdx_cons, List.flatten_cons, List.length_append, List.length_cons]
    omega

theorem length_events_le (request : ι → Except Fault Request)
    (leads : ι → Json → Option (Option ι)) (q : ι) (reply : Reply) :
    ((service request leads).events q reply).length ≤ 1 := by
  cases hrequest : request q with
  | error fault => simp [service, hrequest]
  | ok sent => cases hreceived : reply.isReceived <;> simp [service, hrequest, hreceived]

theorem Judged.of_allOrNothing {request : ι → Except Fault Request}
    {leads : ι → Json → Option (Option ι)} {tell : ι → Fault → String} {script : List Reply}
    {first : ι} {asked : List ι}
    {o : Except ProviderError (List String) × List Event}
    (h : (service request leads).AllOrNothing tell script first asked o) : Judged script o := by
  -- A question may stay a request that nobody gets, but there is none without a question.
  have hlength : o.2.length ≤ asked.length := by
    rw [h.events]
    exact length_flatten_mapIdx_le (fun i q => length_events_le request leads q _) asked
  have hasked : ∀ i < o.2.length, ∃ q, asked[i]? = some q := by
    intro i hi
    exact ⟨_, List.getElem?_eq_getElem (Nat.lt_of_lt_of_le hi hlength)⟩
  have hanswered {q : ι} {reply : Reply} (hnone : (service request leads).fault? q reply = none) :
      ∃ status body, reply = .response status body ∧ ¬ Status.Fails status := by
    simp only [service] at hnone
    split at hnone
    · cases hnone
    · exact Reply.response_of_fault hnone
  constructor
  · intro found hfound i hi
    obtain ⟨q, hq⟩ := hasked i hi
    cases hfault : (service request leads).fault? q (script.getD i .notFound) with
    | none => exact hanswered hfault
    | some fault =>
      have hends := (h.stops i q fault hq hfault).2
      rw [hfound] at hends
      cases hends
  · intro i hi status body hreply hfails
    obtain ⟨q, hq⟩ := hasked i hi
    cases hfault : (service request leads).fault? q (script.getD i .notFound) with
    | some fault => exact ⟨_, (h.stops i q fault hq hfault).2⟩
    | none =>
      obtain ⟨status', body', hsame, hgood⟩ := hanswered hfault
      rw [hreply] at hsame
      cases hsame
      exact absurd hfails hgood

/-- The same response with the status of success, unless its status fails or is one below 200, with
which nothing is answered yet. -/
def Reply.asSuccess : Reply → Reply
  | .response status body =>
    if 200 ≤ status ∧ ¬ Status.Fails status then .response 200 body else .response status body
  | reply => reply

@[simp] theorem Reply.isReceived_asSuccess (reply : Reply) :
    reply.asSuccess.isReceived = reply.isReceived := by
  unfold asSuccess
  split
  · split <;> rfl
  · rfl

@[simp] theorem Reply.body_asSuccess (reply : Reply) (url : String) :
    reply.asSuccess.body url = reply.body url := by
  unfold asSuccess
  split
  · next status body =>
    split
    · next h =>
      obtain ⟨hbody, hclient, hserver⟩ := Status.hasBody_of_not_fails h.2
      have hread : (response status body).body url = .ok body := by
        simp [Reply.body, hbody, hclient, hserver]
      rw [hread]
      rfl
    · rfl
  · rfl

theorem fetch_asSuccess (read : Json → Option α) (request : Except Fault Request)
    (reply : Reply) : fetch read request reply.asSuccess = fetch read request reply := by
  simp only [fetch, Reply.isReceived_asSuccess, Reply.body_asSuccess]

theorem listed_asSuccess {l : Client → Listing Reply Fault σ α}
    (hfetch : ∀ client cursor reply,
      (l client).fetch cursor reply.asSuccess = (l client).fetch cursor reply)
    (connected : Except Fault Client) (cursor : σ) (replies : List Reply) (pick : List α → β) :
    (do
      let client ← Call.ofExcept connected
      let (pages, _) ← (l client).pages cursor (replies.map Reply.asSuccess)
      return pick pages : Call Fault β) = do
      let client ← Call.ofExcept connected
      let (pages, _) ← (l client).pages cursor replies
      return pick pages := by
  congr 1
  funext client
  rw [Listing.pages_map (hfetch client), bind_map_left]

end Http

open Http (Reply)

section Web
variable (client : Http.Client) (replies : List Reply) (baseUrl : String)
  (userAgent : Option String) (world : World) (c : Config)

def World.asSuccess (world : World) : World := { world with web := world.web.map Reply.asSuccess }

theorem DigitalOcean.droplets_asSuccess (tag : String) :
    droplets client tag (replies.map Reply.asSuccess) = droplets client tag replies :=
  Http.listed_asSuccess (fun _ _ _ => Http.fetch_asSuccess _ _ _) _ _ _ _

theorem Hetzner.servers_asSuccess (selector : String) :
    servers client selector (replies.map Reply.asSuccess) = servers client selector replies :=
  Http.listed_asSuccess (fun _ _ _ => Http.fetch_asSuccess _ _ _) _ _ _ _

theorem Vultr.instances_asSuccess (tag : String) :
    instances client tag (replies.map Reply.asSuccess) = instances client tag replies :=
  Http.listed_asSuccess (fun _ _ _ => Http.fetch_asSuccess _ _ _) _ _ _ _

namespace Linode

theorem instances_asSuccess (filter : String) :
    instances client filter (replies.map Reply.asSuccess) =
      (fun found => (found.1, found.2.map Reply.asSuccess)) <$>
        instances client filter replies := by
  unfold instances
  rw [Listing.pages_map fun _ _ => Http.fetch_asSuccess _ _ _, Call.mapError_map, bind_map_left,
    map_bind]
  simp

theorem linkLocals_asSuccess (listed : List Instance) :
    linkLocals client listed (replies.map Reply.asSuccess) = linkLocals client listed replies := by
  induction listed generalizing replies with
  | nil => rfl
  | cons i rest ih =>
    have hhead : (replies.map Reply.asSuccess).headD .notFound =
        (replies.headD .notFound).asSuccess := by
      cases replies <;> rfl
    have hone : linkLocal client i.id (replies.headD .notFound).asSuccess =
        linkLocal client i.id (replies.headD .notFound) := by
      rw [linkLocal, Http.fetch_asSuccess, linkLocal]
    rw [linkLocals, linkLocals, hhead, hone, ← List.map_tail, ih]

theorem ask_tell_asSuccess (criteria : Criteria) :
    ask client criteria (replies.map Reply.asSuccess) >>= tell client criteria =
      ask client criteria replies >>= tell client criteria := by
  have htell (found : List Instance × List Reply) :
      tell client criteria (found.1, found.2.map Reply.asSuccess) = tell client criteria found := by
    simp only [tell, addressesOf, linkLocals_asSuccess]
  simp only [ask, bind_assoc, instances_asSuccess, bind_map_left, htell]

end Linode

theorem WebService.ask_tell_asSuccess (s : WebService) (options : s.search.Options) :
    s.search.ask client options (replies.map Reply.asSuccess) >>= s.search.tell client options =
      s.search.ask client options replies >>= s.search.tell client options := by
  cases s with
  | digitalOcean =>
    simp only [search, DigitalOcean.search, DigitalOcean.droplets_asSuccess]
  | hetzner => simp only [search, Hetzner.search, Hetzner.servers_asSuccess]
  | linode => exact Linode.ask_tell_asSuccess client replies options
  | vultr => simp only [search, Vultr.search, Vultr.instances_asSuccess]

theorem WebService.find_asSuccess (s : WebService) :
    s.find baseUrl userAgent world.asSuccess c = s.find baseUrl userAgent world c := by
  rw [find_eq, find_eq]
  exact Search.find_congr rfl rfl fun plan => s.ask_tell_asSuccess plan.1 world.web plan.2

theorem WebService.judged_find (s : WebService) (logger : Logger) :
    Http.Judged world.web ((s.find baseUrl userAgent world c).outcome logger) := by
  obtain hrefuses | ⟨-, token, -, hquestions⟩ := s.refuses_or_questions baseUrl userAgent world c
  · exact .of_refuses hrefuses _ _
  · obtain ⟨ι, request, leads, tell, first, asked, hall, -⟩ := hquestions logger
    exact .of_allOrNothing hall

/-- Statuses from 400 to 599 fail, and 204 and 304, which bring no body: a search that succeeds has
consumed no response with one of them, and one with them that it consumes makes it fail, wherever it
comes. All others from 200 on are read as that of success is, also those of redirections and those
that mean nothing: with 200 in their place every search is the same. -/
theorem search_judged_by_status (s : WebService) (logger : Logger) :
    Http.Judged world.web ((s.find baseUrl userAgent world c).outcome logger) ∧
      s.find baseUrl userAgent world.asSuccess c = s.find baseUrl userAgent world c :=
  ⟨s.judged_find baseUrl userAgent world c logger, s.find_asSuccess baseUrl userAgent world c⟩

end Web

/-- A redirection that leads nowhere, with a page as its body, is a page of the listing. -/
theorem redirection_brings_page :
    let body := "[[[1,\"a\",[null,null],[[\"10.0.0.1\"]],[[\"fsn1\"]]]],[[null]]]"
    let world : World := { World.offline [] with web := [.response 302 body] }
    let c : Config := .ofList [("provider", "hcloud"), ("api_token", "t")]
    ∃ request, (WebService.hetzner.find "http://[::1]:8080" none world c).outcome .discard =
      (.ok ["10.0.0.1"], [.web request]) := by
  intro body world c
  let client : Http.Client := ⟨"http://[::1]:8080", none, "t"⟩
  have hemploys : c.Employs world.env Hetzner.providerName "HCLOUD_TOKEN" client :=
    ⟨by decide, by decide, rfl⟩
  have hreaches : client.Reaches "/v1/servers"
      ⟨"http".toList, some "[::1]:8080".toList, "/v1/servers".toList, none, none⟩ :=
    ⟨by decide +kernel, by decide, by decide, by decide, rfl⟩
  let page : Hetzner.Page := ⟨[⟨1, "a", none, none, ["10.0.0.1"], "fsn1"⟩], none⟩
  have hbrings : List.Forall₂ (Reply.Brings Hetzner.Page.ofJson?) world.web [page] :=
    .cons ⟨302, body, rfl, rfl, rfl, rfl, by decide +kernel⟩ .nil
  have hlast : [page].map Hetzner.Page.nextPage = ([] : List UInt32).map some ++ [none] := rfl
  obtain ⟨asked, houtcome, hasked⟩ := Hetzner.outcome_walk hemploys hreaches
    (List.prefix_refl world.web) hbrings hlast .discard
  obtain ⟨request, rfl⟩ := List.length_eq_one_iff.mp hasked.length_eq.symm
  exact ⟨request, houtcome⟩

end NodeDiscovery
