import NodeDiscovery.Proofs.DigitalOcean.Search
import NodeDiscovery.Proofs.Http.Fetch
import NodeDiscovery.Proofs.Http.Form
import NodeDiscovery.Proofs.Listing
import NodeDiscovery.World.Offline
import Mathlib.Algebra.Group.Nat.Defs

/-! A server that answers honestly for a fleet of droplets is asked for all its pages, and what is
found are the private addresses of just the droplets looked for. -/
namespace NodeDiscovery.DigitalOcean

def tagged (fleet : List Droplet) (tag : String) : List Droplet := fleet.filter (tag ∈ ·.tags)

def slice (page : Nat) (droplets : List Droplet) : List Droplet :=
  (droplets.drop ((page - 1) * 200)).take 200

/-- A request to an endpoint for one page of the droplets with a tag. -/
def Asks (endpoint : Http.Url) (request : Http.Request) (page : Nat) (tag : String) : Prop :=
  { request.url with query := endpoint.query } = endpoint ∧
    Http.Form.decode (request.url.query.getD []) = Http.Form.decode (endpoint.query.getD []) ++
      [("page", toString page), ("per_page", "200"), ("tag_name", tag)]

instance (endpoint : Http.Url) (request : Http.Request) (page : Nat) (tag : String) :
    Decidable (Asks endpoint request page tag) :=
  inferInstanceAs (Decidable (_ ∧ _))

/-- A server that brings every page it is asked for. -/
def Honest (endpoint : Http.Url) (fleet : List Droplet) (serve : Http.Request → Http.Reply) :
    Prop :=
  ∀ request page tag, 1 ≤ page → Asks endpoint request page tag →
    (serve request).Brings pageOfJson? (slice page (tagged fleet tag))

/-- A droplet is in the region, if a nonempty one is given, and carries every required tag. -/
def Droplet.Matches (region : Option String) (required : List String) (d : Droplet) : Prop :=
  (∀ r ∈ region, r ≠ "" → d.region = r) ∧ ∀ tag ∈ required, tag ∈ d.tags

instance (region : Option String) (required : List String) (d : Droplet) :
    Decidable (d.Matches region required) :=
  inferInstanceAs (Decidable (_ ∧ _))

def addresses (fleet : List Droplet) (region : Option String) (required : List String) :
    List String :=
  (fleet.filter (Droplet.Matches region required)).flatMap Droplet.privateAddresses

def pageRequest (client : Http.Client) (endpoint : Http.Url) (tag : String) (page : Nat) :
    Http.Request :=
  ⟨endpoint.addQuery [("page", toString page), ("per_page", "200"), ("tag_name", tag)],
    "Bearer " ++ client.token, client.userAgent, none⟩

/-- The requests for all pages of a fleet, the last of which is not full. -/
def requests (client : Http.Client) (endpoint : Http.Url) (fleet : List Droplet) (tag : String) :
    List Http.Request :=
  (List.range ((tagged fleet tag).length / 200 + 1)).map fun i =>
    pageRequest client endpoint tag (i + 1)

/-- What a call needs: it asks for this provider and for at least one tag, has a token, and its
requests get to an honest server, whose pages can be counted in 32 bits. -/
structure Served (client : Http.Client) (world : World) (c : Config) (endpoint : Http.Url)
    (fleet : List Droplet) (serve : Http.Request → Http.Reply) (first : String)
    (rest : List String) : Prop where
  provider : c.provider = some providerName
  requires : Requires c (first :: rest)
  token : c.apiToken world.env "DIGITALOCEAN_TOKEN" = .ok client.token
  reaches : client.Reaches "/v2/droplets" endpoint
  honest : Honest endpoint fleet serve
  countable : (tagged fleet first).length < 200 * (2 ^ 31 - 2)
  answers : (requests client endpoint fleet first).map serve <+: world.web

section Pages
variable {client : Http.Client} {endpoint : Http.Url} {fleet : List Droplet}
  {serve : Http.Request → Http.Reply} {tag : String}

theorem asks_pageRequest (client : Http.Client) (endpoint : Http.Url) (tag : String) (page : Nat) :
    Asks endpoint (pageRequest client endpoint tag page) page tag :=
  ⟨rfl, Http.Url.decode_addQuery endpoint _⟩

/-- A request asks for one page and one tag only, so no server is torn between two answers. -/
theorem Asks.unique {request : Http.Request} {page page' : Nat} {tag tag' : String}
    (h : Asks endpoint request page tag) (h' : Asks endpoint request page' tag') :
    page = page' ∧ tag = tag' := by
  have hquery := List.append_cancel_left (h.2.symm.trans h'.2)
  simp only [List.cons.injEq, Prod.mk.injEq, true_and, and_true] at hquery
  exact ⟨Text.toString_injective hquery.1, hquery.2⟩

theorem length_slice (i : Nat) (droplets : List Droplet) :
    (slice (i + 1) droplets).length = min 200 (droplets.length - i * 200) :=
  Listing.length_slice 200 i droplets

theorem toString_page {page : Nat} (h : page < 2 ^ 31) :
    toString (Int32.ofNat page) = toString page := by
  show toString (Int32.ofNat page).toInt = _
  rw [Int32.toInt_ofNat_of_lt h]
  rfl

theorem run_fetch_page (hreaches : client.Reaches "/v2/droplets" endpoint)
    (honest : Honest endpoint fleet serve) {i : Nat} (hi : i + 1 < 2 ^ 31) (logger : Logger) :
    ((listing client tag).fetch (Int32.ofNat (i + 1))
        (serve (pageRequest client endpoint tag (i + 1)))).run logger =
      ⟨.ok (slice (i + 1) (tagged fleet tag)), [],
        [.web (pageRequest client endpoint tag (i + 1))]⟩ := by
  have hrequest : client.request "/v2/droplets" [("page", toString (Int32.ofNat (i + 1))),
      ("per_page", toString perPage), ("tag_name", tag)] none =
        .ok (pageRequest client endpoint tag (i + 1)) := by
    rw [toString_page hi]
    exact hreaches.request_eq (List.cons_ne_nil _ _) rfl
  have hasks := asks_pageRequest client endpoint tag (i + 1)
  have hbrings := honest _ (i + 1) tag (Nat.le_add_left 1 i) hasks
  simp only [listing, hrequest]
  exact Http.run_fetch hbrings _ logger

theorem visits_pages (hreaches : client.Reaches "/v2/droplets" endpoint)
    (honest : Honest endpoint fleet serve) {last : Nat}
    (hlast : last = (tagged fleet tag).length / 200) (hcountable : last + 1 < 2 ^ 31)
    (later : List Http.Reply) (logger : Logger) :
    (listing client tag).Visits logger 1
      ((List.range (last + 1)).map (fun i => serve (pageRequest client endpoint tag (i + 1))) ++
        later)
      ((List.range (last + 1)).map fun i => slice (i + 1) (tagged fleet tag))
      ((List.range (last + 1)).map fun i => .web (pageRequest client endpoint tag (i + 1)))
      later := by
  have hlength (i : Nat) := length_slice i (tagged fleet tag)
  refine Listing.visits_of_numbered (fun i => Int32.ofNat (i + 1))
    (fun i hi => run_fetch_page hreaches honest (by omega) logger) (fun i hi => ?_) ?_ later
  · have hfull : ¬ (slice (i + 1) (tagged fleet tag)).length < perPage := by
      rw [hlength, perPage]
      omega
    simp [listing, hfull]
  · have hshort : (slice (last + 1) (tagged fleet tag)).length < perPage := by
      rw [hlength, perPage]
      omega
    simp [listing, hshort]

theorem run_droplets (hreaches : client.Reaches "/v2/droplets" endpoint)
    (honest : Honest endpoint fleet serve)
    (hcountable : (tagged fleet tag).length < 200 * (2 ^ 31 - 2)) {replies : List Http.Reply}
    (hanswers : (requests client endpoint fleet tag).map serve <+: replies) (logger : Logger) :
    (droplets client tag replies).run logger =
      ⟨.ok (tagged fleet tag), [], (requests client endpoint fleet tag).map .web⟩ := by
  obtain ⟨later, rfl⟩ := hanswers
  have hvisits : (listing client tag).Visits logger 1
      ((requests client endpoint fleet tag).map serve ++ later)
      ((List.range ((tagged fleet tag).length / 200 + 1)).map fun i =>
        slice (i + 1) (tagged fleet tag))
      ((requests client endpoint fleet tag).map .web) later := by
    rw [requests, List.map_map, List.map_map]
    exact visits_pages hreaches honest rfl (by omega) later logger
  have hflatten : ((List.range ((tagged fleet tag).length / 200 + 1)).map fun i =>
      slice (i + 1) (tagged fleet tag)).flatten = tagged fleet tag := by
    refine (Listing.flatten_slices 200 _ _).trans (List.take_of_length_le ?_)
    omega
  unfold droplets
  rw [hreaches.connect, Call.run_bind_ok (Call.run_ofExcept _ _),
    Call.run_bind_ok hvisits.run_pages]
  simp [hflatten]

end Pages

/-- Of the droplets with the first tag, those wanted are those of the fleet that match. -/
theorem filter_isWanted (c : Config) (fleet : List Droplet) (first : String) (rest : List String) :
    (tagged fleet first).filter (Droplet.isWanted (c.nonempty? "region") (first :: rest)) =
      fleet.filter (Droplet.Matches (c.get? "region") (first :: rest)) := by
  have hregion (d : Droplet) : (c.nonempty? "region").all (d.region = ·) = true ↔
      ∀ r ∈ c.get? "region", r ≠ "" → d.region = r := by
    rw [Config.nonempty?]
    cases c.get? "region" with
    | none => simp
    | some r => by_cases h : r = "" <;> simp [h, Option.filter]
  rw [tagged, List.filter_filter]
  refine List.filter_congr fun d _ => ?_
  rw [Bool.eq_iff_iff, Droplet.isWanted, Bool.and_eq_true, Bool.and_eq_true, hregion]
  simp only [Droplet.Matches, List.all_eq_true, decide_eq_true_eq, List.mem_cons, forall_eq_or_imp]
  tauto

section Find
variable {client : Http.Client} {world : World} {c : Config} {endpoint : Http.Url}
  {fleet : List Droplet} {serve : Http.Request → Http.Reply} {first : String} {rest : List String}

theorem Served.run_find (h : Served client world c endpoint fleet serve first rest)
    (logger : Logger) :
    ((find client.baseUrl client.userAgent world c).run logger).result =
        .ok (addresses fleet (c.get? "region") (first :: rest)) ∧
      ((find client.baseUrl client.userAgent world c).run logger).events =
        (requests client endpoint fleet first).map .web := by
  have hprovider : c.expectProvider providerName = .ok () :=
    Config.expectProvider_eq_ok_iff.mpr h.provider
  have htags := tags_eq_ok_iff.mpr h.requires
  have hdroplets : ((droplets client first world.web).mapError fun fault =>
      ProviderError.requestFailed fault.message).run logger =
        ⟨.ok (tagged fleet first), [], (requests client endpoint fleet first).map .web⟩ := by
    rw [Call.run_mapError, run_droplets h.reaches h.honest h.countable h.answers logger]
    rfl
  unfold find
  rw [hprovider, htags, h.token, Call.run_bind_ok (Call.run_ofExcept _ _),
    Call.run_bind_ok (Call.run_ofExcept _ _), Call.run_bind_ok (Call.run_ofExcept _ _),
    Call.run_bind_ok (Call.run_log _ _ _ _), Call.run_bind_ok hdroplets,
    Call.run_bind_ok (Call.run_log _ _ _ _),
    Call.run_bind_ok (Call.writes_gather writes_report _ logger),
    Call.run_bind_ok (Call.run_log _ _ _ _), filter_isWanted]
  constructor
  · rfl
  · simp

theorem addresses_congr {required required' : List String} (fleet : List Droplet)
    (region : Option String) (h : ∀ tag, tag ∈ required' ↔ tag ∈ required) :
    addresses fleet region required' = addresses fleet region required := by
  have hmatches (d : Droplet) : d.Matches region required' ↔ d.Matches region required := by
    simp only [Droplet.Matches, h]
  simp only [addresses, hmatches]

/-- Discovery is complete: an honest server is asked for all pages in order, and the addresses
found are those of just the droplets that match. Another call for the same tags, however they are
listed, finds the same. -/
theorem find_complete (h : Served client world c endpoint fleet serve first rest)
    (logger : Logger) :
    let found := (find client.baseUrl client.userAgent world c).run logger
    let asked := requests client endpoint fleet first
    found.result = .ok (addresses fleet (c.get? "region") (first :: rest)) ∧
    found.events = asked.map .web ∧
    asked.length = (tagged fleet first).length / 200 + 1 ∧
    (∀ i < asked.length, ∃ request, asked[i]? = some request ∧
      Asks endpoint request (i + 1) first) ∧
    ∀ client' world' c' endpoint' serve' first' rest' logger',
      Served client' world' c' endpoint' fleet serve' first' rest' →
      c'.get? "region" = c.get? "region" →
      (∀ tag, tag ∈ first' :: rest' ↔ tag ∈ first :: rest) →
      ((find client'.baseUrl client'.userAgent world' c').run logger').result = found.result := by
  intro found asked
  obtain ⟨hresult, hevents⟩ := h.run_find logger
  have hlength : asked.length = (tagged fleet first).length / 200 + 1 := by
    simp [asked, requests]
  refine ⟨hresult, hevents, hlength, ?_, ?_⟩
  · intro i hi
    refine ⟨pageRequest client endpoint first (i + 1), ?_, asks_pageRequest ..⟩
    rw [hlength] at hi
    simp [asked, requests, hi]
  · intro client' world' c' endpoint' serve' first' rest' logger' h' hregion hsame
    obtain ⟨hresult', -⟩ := h'.run_find logger'
    calc ((find client'.baseUrl client'.userAgent world' c').run logger').result
        = .ok (addresses fleet (c'.get? "region") (first' :: rest')) := hresult'
      _ = .ok (addresses fleet (c.get? "region") (first :: rest)) := by
        rw [hregion, addresses_congr fleet _ hsame]
      _ = found.result := hresult.symm

end Find

def sampleFleet : List Droplet :=
  [⟨1, "a", [⟨"10.0.0.1", "private"⟩, ⟨"203.0.113.1", "public"⟩], "lon1", ["consul", "server"]⟩,
    ⟨2, "b", [⟨"10.0.0.2", "private"⟩], "lon1", ["consul"]⟩]

def sampleEndpoint : Http.Url :=
  ⟨"http".toList, some "[::1]:8080".toList, "/v2/droplets".toList, none, none⟩

/-- The documents of the server of this fleet, with arrays for records. -/
def sampleDocument (tag : String) : String :=
  let first := "[1,\"a\",[[[\"10.0.0.1\",\"private\"],[\"203.0.113.1\",\"public\"]]]," ++
    "[\"lon1\"],[\"consul\",\"server\"]]"
  let second := "[2,\"b\",[[[\"10.0.0.2\",\"private\"]]],[\"lon1\"],[\"consul\"]]"
  if tag = "consul" then "[[" ++ first ++ "," ++ second ++ "]]"
  else if tag = "server" then "[[" ++ first ++ "]]"
  else "[[]]"

def sampleServer (request : Http.Request) : Http.Reply :=
  .response 200 <|
    if Asks sampleEndpoint request 1 "consul" then sampleDocument "consul"
    else if Asks sampleEndpoint request 1 "server" then sampleDocument "server"
    else sampleDocument ""

set_option maxRecDepth 4000 in
theorem sampleServer_honest : Honest sampleEndpoint sampleFleet sampleServer := by
  have hconsul : (Json.parse? (sampleDocument "consul")).bind pageOfJson? = some sampleFleet := by
    decide +kernel
  have hserver : (Json.parse? (sampleDocument "server")).bind pageOfJson? =
      some (sampleFleet.take 1) := by
    decide +kernel
  have hnone : (Json.parse? (sampleDocument "")).bind pageOfJson? = some [] := by decide +kernel
  intro request page tag hpage hasks
  refine Http.Reply.brings_of_read ?_
  split
  · next h =>
    obtain ⟨rfl, rfl⟩ := hasks.unique h
    exact hconsul
  · next hnotConsul =>
    split
    · next h =>
      obtain ⟨rfl, rfl⟩ := hasks.unique h
      exact hserver
    · next hnotServer =>
      have hempty : slice page (tagged sampleFleet tag) = [] := by
        by_cases hone : page = 1
        · subst hone
          have hconsul : tag ≠ "consul" := fun e => hnotConsul (e ▸ hasks)
          have hserver : tag ≠ "server" := fun e => hnotServer (e ▸ hasks)
          simp [slice, tagged, sampleFleet, hconsul, hserver]
        · have hlength : (tagged sampleFleet tag).length ≤ 2 := List.length_filter_le ..
          rw [slice, List.drop_of_length_le (by omega), List.take_nil]
      rw [hempty]
      exact hnone

set_option maxRecDepth 4000 in
/-- The second droplet lacks a tag, which is found out here and not by the server. -/
theorem find_complete_sample :
    let c : Config := .ofList [("provider", "digitalocean"),
      ("tag_names", " consul,server ,, consul"), ("api_token", "t")]
    let world : World := { World.offline [] with web := [sampleServer
      (pageRequest ⟨"http://[::1]:8080", none, "t"⟩ sampleEndpoint "consul" 1)] }
    Served ⟨"http://[::1]:8080", none, "t"⟩ world c sampleEndpoint sampleFleet sampleServer
        "consul" ["server", "consul"] ∧
      ((find "http://[::1]:8080" none world c).run Logger.discard).result = .ok ["10.0.0.1"] := by
  intro c world
  have hparsed : Http.Url.parse ("http://[::1]:8080" ++ "/v2/droplets") = .ok sampleEndpoint := by
    decide +kernel
  have hserved : Served ⟨"http://[::1]:8080", none, "t"⟩ world c sampleEndpoint sampleFleet
      sampleServer "consul" ["server", "consul"] := {
    provider := by decide
    requires := tags_eq_ok_iff.mp (by decide)
    token := by decide
    reaches := ⟨hparsed, by decide, by decide, by decide, by decide⟩
    honest := sampleServer_honest
    countable := by decide
    answers := List.prefix_refl _ }
  refine ⟨hserved, ?_⟩
  rw [(find_complete hserved Logger.discard).1]
  decide

end NodeDiscovery.DigitalOcean
