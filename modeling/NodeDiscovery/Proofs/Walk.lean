import NodeDiscovery.Proofs.Ec2.Search
import NodeDiscovery.Proofs.Hetzner.Search
import NodeDiscovery.Proofs.Http.Fetch
import NodeDiscovery.Proofs.Listing
import NodeDiscovery.Proofs.Vultr.Search
import NodeDiscovery.World.Offline

/-! Walks along cursors: where each page of a listing says where the next one is, the requests
follow the pages, all with the same filters, and a search finds what is on the pages put
together. -/
namespace NodeDiscovery

namespace Http
variable {α σ : Type} {read : Json → Option α} {client : Client} {path : String} {endpoint : Url}
  {query : σ → List (String × String)} {l : Listing Reply Fault σ α} {next : α → Option σ}
  {replies : List Reply} {pages : List α} {cursors : List σ}

theorem exists_outcome_pages (hreaches : client.Reaches path endpoint)
    (hquery : ∀ cursor, query cursor ≠ [])
    (hfetch : ∀ cursor, l.fetch cursor = fetch read (client.request path (query cursor) none))
    (hnext : ∀ cursor page, l.next cursor page = next page)
    (hbrings : List.Forall₂ (Reply.Brings read) replies pages)
    (hcontinues : pages.map next = cursors.map some ++ [none]) (start : σ)
    (later : List Reply) (logger : Logger) :
    ∃ asked, (l.pages start (replies ++ later)).outcome logger =
        (.ok (pages, later), asked.map .web) ∧
      List.Forall₂ (fun cursor => Request.Asks endpoint (query cursor)) (start :: cursors)
        asked := by
  choose request hrequest hasks using fun cursor => hreaches.exists_request (hquery cursor)
  have hfetched : List.Forall₂ (fun reply page => ∀ cursor,
      (l.fetch cursor reply).run logger = ⟨.ok page, [], [.web (request cursor)]⟩)
        replies pages := by
    refine hbrings.imp fun reply page hpage cursor => ?_
    rw [hfetch, hrequest]
    exact run_fetch hpage (request cursor) logger
  have hvisits := Listing.visits_of_continues hnext hfetched hcontinues start later
  refine ⟨(start :: cursors).map request, ?_, ?_⟩
  · rw [Call.outcome, hvisits.run_pages, List.map_map]
    rfl
  · rw [List.forall₂_map_right_iff, List.forall₂_same]
    exact fun cursor _ => hasks cursor

/-- The pairs of a criterion, which is left out if it is empty. -/
def criterion (key value : String) : List (String × String) :=
  if value = "" then [] else [(key, value)]

end Http

namespace Hetzner
variable {client : Http.Client} {world : World} {c : Config} {endpoint : Http.Url}
  {replies : List Http.Reply} {pages : List Page} {cursors : List UInt32}

theorem query_eq (selector : String) (page : UInt32) :
    query selector page = [("status", "running"), ("page", toString page), ("per_page", "50")] ++
      Http.criterion "label_selector" selector := by
  simp only [query, Http.criterion, String.isEmpty_iff]
  rfl

theorem outcome_walk (h : c.Employs world.env providerName "HCLOUD_TOKEN" client)
    (hreaches : client.Reaches "/v1/servers" endpoint) (hanswers : replies <+: world.web)
    (hbrings : List.Forall₂ (Http.Reply.Brings Page.ofJson?) replies pages)
    (hcontinues : pages.map Page.nextPage = cursors.map some ++ [none]) (logger : Logger) :
    ∃ asked, (find client.baseUrl client.userAgent world c).outcome logger =
        (.ok (addresses c (pages.flatMap Page.servers)), asked.map .web) ∧
      List.Forall₂ (fun page => Http.Request.Asks endpoint
        ([("status", "running"), ("page", toString page), ("per_page", "50")] ++
          Http.criterion "label_selector" (c.getD "label_selector"))) (1 :: cursors) asked := by
  obtain ⟨later, hweb⟩ := hanswers
  obtain ⟨asked, hpages, hasks⟩ := Http.exists_outcome_pages
    (l := listing client (c.getD "label_selector")) hreaches
    (fun _ => List.append_ne_nil_of_left_ne_nil (List.cons_ne_nil _ _) _) (fun _ => rfl)
    (fun _ _ => rfl) hbrings hcontinues 1 later logger
  refine ⟨asked, ?_, hasks.imp fun _ _ h => query_eq _ _ ▸ h⟩
  rw [outcome_find h, servers, h.connect, (Call.quiet_ofExcept client).outcome_bind, ← hweb,
    Call.outcome_bind_quiet fun _ => Call.quiet_pure _, hpages]
  rfl

end Hetzner

namespace Vultr
variable {client : Http.Client} {world : World} {c : Config} {endpoint : Http.Url}
  {replies : List Http.Reply} {pages : List Page} {cursors : List String}

theorem query_eq (tag cursor : String) :
    query tag cursor = [("per_page", "500")] ++ Http.criterion "tag" tag ++
      Http.criterion "cursor" cursor := by
  have hperPage : toString perPage = "500" := rfl
  by_cases htag : tag = "" <;> by_cases hcursor : cursor = "" <;>
    simp [query, Http.criterion, hperPage, htag, hcursor]

theorem outcome_walk (h : c.Employs world.env providerName "VULTR_API_KEY" client)
    (hreaches : client.Reaches "/v2/instances" endpoint) (hanswers : replies <+: world.web)
    (hbrings : List.Forall₂ (Http.Reply.Brings Page.ofJson?) replies pages)
    (hcontinues : pages.map Page.next = cursors ++ [""]) (hcursors : "" ∉ cursors)
    (logger : Logger) :
    ∃ asked, (find client.baseUrl client.userAgent world c).outcome logger =
        (.ok (addresses c (pages.flatMap Page.instances)), asked.map .web) ∧
      List.Forall₂ (fun cursor => Http.Request.Asks endpoint
        ([("per_page", "500")] ++ Http.criterion "tag" (c.getD "tag_name") ++
          Http.criterion "cursor" cursor)) ("" :: cursors) asked := by
  have hnext : pages.map (fun page => if page.next.isEmpty then none else some page.next) =
      cursors.map some ++ [none] := by
    have hmapped := congrArg (List.map fun next => if next.isEmpty then none else some next)
      hcontinues
    have hsome : cursors.map (fun next => if next.isEmpty then none else some next) =
        cursors.map some := by
      refine List.map_congr_left fun cursor hcursor => ?_
      rw [if_neg]
      rw [String.isEmpty_iff]
      rintro rfl
      exact hcursors hcursor
    rw [List.map_map, List.map_append, hsome] at hmapped
    exact hmapped
  obtain ⟨later, hweb⟩ := hanswers
  obtain ⟨asked, hpages, hasks⟩ := Http.exists_outcome_pages
    (l := listing client (c.getD "tag_name")) hreaches
    (fun _ => List.cons_ne_nil _ _) (fun _ => rfl)
    (fun _ _ => rfl) hbrings hnext "" later logger
  refine ⟨asked, ?_, hasks.imp fun _ _ h => query_eq _ _ ▸ h⟩
  rw [outcome_find h, instances, h.connect, (Call.quiet_ofExcept client).outcome_bind, ← hweb,
    Call.outcome_bind_quiet fun _ => Call.quiet_pure _, hpages]
  rfl

end Vultr

namespace Ec2
variable {world : World} {c : Config} {q : Query} {signing : Credentials}
  {replies : List Reply} {pages : List Page} {cursors : List String}

theorem run_fetch (hsendable : signing.isSendable = true) {reply : Reply} {page : Page}
    (hpage : reply.page? = .ok page) (token : Option String) (logger : Logger) :
    (fetch (some signing) q token reply).run logger = ⟨.ok page, [],
      [.ec2 ⟨signing, q.region, listingParameters q.tagKey q.tagValue token⟩]⟩ := by
  have hreceived : reply.isReceived = true := by
    cases reply <;> first | rfl | cases hpage
  simp [fetch, hsendable, hreceived, hpage, Call.run_bind]

theorem outcome_walk (h : Poses c world.env q)
    (hcredentials : credentialsOf c world.env = some signing)
    (hsendable : signing.isSendable = true) (hanswers : replies <+: world.ec2)
    (hbrings : List.Forall₂ (fun reply page => reply.page? = .ok page) replies pages)
    (hcontinues : pages.map (fun page => page.nextToken.filter (· ≠ "")) =
      cursors.map some ++ [none]) (userAgent : Option String) (logger : Logger) :
    (find userAgent world c).outcome logger =
      (.ok (addresses q.kind (pages.flatMap fun page => page.reservations.getD [])),
        (none :: cursors.map some).map fun token =>
          .ec2 ⟨signing, q.region, listingParameters q.tagKey q.tagValue token⟩) := by
  have hnext : pages.map (fun page => (page.nextToken.filter (· ≠ "")).map some) =
      (cursors.map some).map some ++ [none] := by
    have hmapped := congrArg (List.map (Option.map some)) hcontinues
    rw [List.map_map, List.map_append, List.map_map] at hmapped
    rw [List.map_map]
    exact hmapped
  have hfetched : List.Forall₂ (fun reply page => ∀ token,
      ((listing (some signing) q).fetch token reply).run logger = ⟨.ok page, [],
        [.ec2 ⟨signing, q.region, listingParameters q.tagKey q.tagValue token⟩]⟩) replies pages :=
    hbrings.imp fun reply page hpage token => run_fetch hsendable hpage token logger
  obtain ⟨later, hec2⟩ := hanswers
  have hvisits := Listing.visits_of_continues (fun _ _ => rfl) hfetched hnext none later
  rw [outcome_find h, reservations, hcredentials, ← hec2,
    Call.outcome_bind_quiet fun _ => Call.quiet_pure _, Call.outcome, hvisits.run_pages]
  rfl

end Ec2

/-- Where all pages but the last one tell of a next one, a search asks for as many pages as there
are, for each at the cursor that the page before it gave and with the same filters, and finds what
it looks for on all of them, in their order. -/
theorem find_follows_pages (world : World) (c : Config) (logger : Logger) :
    (∀ client endpoint replies pages (cursors : List UInt32),
      c.Employs world.env Hetzner.providerName "HCLOUD_TOKEN" client →
      client.Reaches "/v1/servers" endpoint → replies <+: world.web →
      List.Forall₂ (Http.Reply.Brings Hetzner.Page.ofJson?) replies pages →
      pages.map Hetzner.Page.nextPage = cursors.map some ++ [none] →
      ∃ asked, (Hetzner.find client.baseUrl client.userAgent world c).outcome logger =
          (.ok (Hetzner.addresses c (pages.flatMap Hetzner.Page.servers)), asked.map .web) ∧
        asked.length = pages.length ∧
        List.Forall₂ (fun page => Http.Request.Asks endpoint
          ([("status", "running"), ("page", toString page), ("per_page", "50")] ++
            Http.criterion "label_selector" (c.getD "label_selector"))) (1 :: cursors) asked) ∧
    (∀ client endpoint replies pages (cursors : List String),
      c.Employs world.env Vultr.providerName "VULTR_API_KEY" client →
      client.Reaches "/v2/instances" endpoint → replies <+: world.web →
      List.Forall₂ (Http.Reply.Brings Vultr.Page.ofJson?) replies pages →
      pages.map Vultr.Page.next = cursors ++ [""] → "" ∉ cursors →
      ∃ asked, (Vultr.find client.baseUrl client.userAgent world c).outcome logger =
          (.ok (Vultr.addresses c (pages.flatMap Vultr.Page.instances)), asked.map .web) ∧
        asked.length = pages.length ∧
        List.Forall₂ (fun cursor => Http.Request.Asks endpoint
          ([("per_page", "500")] ++ Http.criterion "tag" (c.getD "tag_name") ++
            Http.criterion "cursor" cursor)) ("" :: cursors) asked) ∧
    ∀ userAgent q signing replies pages (cursors : List String), Ec2.Poses c world.env q →
      Ec2.credentialsOf c world.env = some signing → signing.isSendable = true →
      replies <+: world.ec2 →
      List.Forall₂ (fun reply page => Ec2.Reply.page? reply = .ok page) replies pages →
      pages.map (fun page => page.nextToken.filter (· ≠ "")) = cursors.map some ++ [none] →
      ∃ asked, (Ec2.find userAgent world c).outcome logger =
          (.ok (Ec2.addresses q.kind (pages.flatMap fun page => page.reservations.getD [])),
            asked.map .ec2) ∧
        asked.length = pages.length ∧
        List.Forall₂ (fun token request => request = ⟨signing, q.region,
          [("Action", "DescribeInstances"), ("Filter.1.Name", "tag:" ++ q.tagKey),
            ("Filter.1.Value.1", q.tagValue), ("Filter.2.Name", "instance-state-name"),
            ("Filter.2.Value.1", "running")] ++
          (token.map fun t => ("NextToken", t)).toList ++ [("Version", "2016-11-15")]⟩)
          (none :: cursors.map some) asked := by
  have hlength {σ π : Type} {next : π → σ} {pages : List π} {continued : List σ} {last : σ}
      (hcontinues : pages.map next = continued ++ [last]) :
      continued.length + 1 = pages.length := by
    have hlengths := congrArg List.length hcontinues
    simpa using hlengths.symm
  refine ⟨?_, ?_, ?_⟩
  · intro client endpoint replies pages cursors h hreaches hanswers hbrings hcontinues
    obtain ⟨asked, houtcome, hasks⟩ :=
      Hetzner.outcome_walk h hreaches hanswers hbrings hcontinues logger
    refine ⟨asked, houtcome, ?_, hasks⟩
    rw [← hasks.length_eq, ← hlength hcontinues, List.length_cons, List.length_map]
  · intro client endpoint replies pages cursors h hreaches hanswers hbrings hcontinues hcursors
    obtain ⟨asked, houtcome, hasks⟩ :=
      Vultr.outcome_walk h hreaches hanswers hbrings hcontinues hcursors logger
    refine ⟨asked, houtcome, ?_, hasks⟩
    rw [← hasks.length_eq, ← hlength hcontinues, List.length_cons]
  · intro userAgent q signing replies pages cursors h hcredentials hsendable hanswers hbrings
      hcontinues
    have houtcome :=
      Ec2.outcome_walk h hcredentials hsendable hanswers hbrings hcontinues userAgent logger
    refine ⟨(none :: cursors.map some).map fun token => ⟨signing, q.region,
      Ec2.listingParameters q.tagKey q.tagValue token⟩, ?_, ?_, ?_⟩
    · rw [houtcome, List.map_map]
      rfl
    · rw [← hlength hcontinues, List.length_map, List.length_cons]
    · rw [List.forall₂_map_right_iff, List.forall₂_same]
      intro token _
      rfl

set_option maxRecDepth 4000 in
/-- Listings of two pages: the second request is for the page that the first reply tells of. -/
theorem find_follows_two_pages :
    let client : Http.Client := ⟨"http://[::1]:8080", none, "t"⟩
    let endpoint (path : String) : Http.Url :=
      ⟨"http".toList, some "[::1]:8080".toList, path.toList, none, none⟩
    let config (name : String) : Config := .ofList [("provider", name), ("api_token", "t"),
      ("tag_key", "k"), ("tag_value", "v"), ("access_key_id", "i"), ("secret_access_key", "s")]
    let servers : List Http.Reply := [
      .response 200 "[[[1,\"a\",[null,null],[[\"10.0.0.1\"]],[[\"fsn1\"]]]],[[2]]]",
      .response 200 "[[[2,\"b\",[null,null],[[\"10.0.0.2\"]],[[\"fsn1\"]]]],[[null]]]"]
    let instances : List Http.Reply := [
      .response 200 "[[[\"i1\",\"a\",\"lon\",\"10.0.0.1\"]],[[\"n2\"]]]",
      .response 200 "[[[\"i2\",\"b\",\"lon\",\"10.0.0.2\"]],[[\"\"]]]"]
    let reservations (ip : String) : Option (List Ec2.Reservation) :=
      some [⟨none, some [⟨none, some ip, none, none⟩]⟩]
    let pages : List Ec2.Reply :=
      [.page ⟨reservations "10.0.0.1", some "t2"⟩, .page ⟨reservations "10.0.0.2", some ""⟩]
    let finds (o : Except ProviderError (List String) × List Event) : Prop :=
      o.1 = .ok ["10.0.0.1", "10.0.0.2"] ∧ o.2.length = 2
    ((config "hcloud").Employs (World.offline []).env Hetzner.providerName "HCLOUD_TOKEN" client ∧
      client.Reaches "/v1/servers" (endpoint "/v1/servers") ∧
      finds ((Hetzner.find client.baseUrl none { World.offline [] with web := servers }
        (config "hcloud")).outcome .discard)) ∧
    ((config "vultr").Employs (World.offline []).env Vultr.providerName "VULTR_API_KEY" client ∧
      client.Reaches "/v2/instances" (endpoint "/v2/instances") ∧
      finds ((Vultr.find client.baseUrl none { World.offline [] with web := instances }
        (config "vultr")).outcome .discard)) ∧
    Ec2.Poses (config "aws") (World.offline []).env ⟨"k", "v", .privateV4, .fallback⟩ ∧
      finds ((Ec2.find none { World.offline [] with ec2 := pages }
        (config "aws")).outcome .discard) := by
  intro client endpoint config servers instances reservations pages finds
  have hhetzner : (config "hcloud").Employs (World.offline []).env Hetzner.providerName
      "HCLOUD_TOKEN" client := ⟨by decide, by decide, rfl⟩
  have hservers : client.Reaches "/v1/servers" (endpoint "/v1/servers") :=
    ⟨by decide +kernel, by decide, by decide, by decide, rfl⟩
  have hvultr : (config "vultr").Employs (World.offline []).env Vultr.providerName
      "VULTR_API_KEY" client := ⟨by decide, by decide, rfl⟩
  have hinstances : client.Reaches "/v2/instances" (endpoint "/v2/instances") :=
    ⟨by decide +kernel, by decide, by decide, by decide, rfl⟩
  have hec2 : Ec2.Poses (config "aws") (World.offline []).env
      ⟨"k", "v", .privateV4, .fallback⟩ :=
    ⟨by decide, by decide, by decide, by decide, by decide⟩
  refine ⟨⟨hhetzner, hservers, ?_⟩, ⟨hvultr, hinstances, ?_⟩, hec2, ?_⟩
  · have hbrings : List.Forall₂ (Http.Reply.Brings Hetzner.Page.ofJson?) servers
        [⟨[⟨1, "a", none, none, ["10.0.0.1"], "fsn1"⟩], some 2⟩,
          ⟨[⟨2, "b", none, none, ["10.0.0.2"], "fsn1"⟩], none⟩] :=
      .cons (Http.Reply.brings_of_read (by decide +kernel))
        (.cons (Http.Reply.brings_of_read (by decide +kernel)) .nil)
    obtain ⟨asked, houtcome, hlength, -⟩ :=
      (find_follows_pages { World.offline [] with web := servers } _ .discard).1 client _ servers _
        [2] hhetzner hservers (List.prefix_refl _) hbrings rfl
    show finds ((Hetzner.find client.baseUrl client.userAgent _ _).outcome _)
    rw [houtcome]
    exact ⟨congrArg Except.ok (by decide), by rw [List.length_map, hlength]; rfl⟩
  · have hbrings : List.Forall₂ (Http.Reply.Brings Vultr.Page.ofJson?) instances
        [⟨[⟨"i1", "a", "lon", "10.0.0.1"⟩], "n2"⟩, ⟨[⟨"i2", "b", "lon", "10.0.0.2"⟩], ""⟩] :=
      .cons (Http.Reply.brings_of_read (by decide +kernel))
        (.cons (Http.Reply.brings_of_read (by decide +kernel)) .nil)
    obtain ⟨asked, houtcome, hlength, -⟩ :=
      (find_follows_pages { World.offline [] with web := instances } _ .discard).2.1 client _
        instances _ ["n2"] hvultr hinstances (List.prefix_refl _) hbrings rfl (by decide)
    show finds ((Vultr.find client.baseUrl client.userAgent _ _).outcome _)
    rw [houtcome]
    exact ⟨congrArg Except.ok (by decide), by rw [List.length_map, hlength]; rfl⟩
  · have hcredentials : Ec2.credentialsOf (config "aws") (World.offline []).env =
        some ⟨"i", "s", none⟩ := by decide
    obtain ⟨asked, houtcome, hlength, -⟩ :=
      (find_follows_pages { World.offline [] with ec2 := pages } _ .discard).2.2 none _ _ pages
        [⟨reservations "10.0.0.1", some "t2"⟩, ⟨reservations "10.0.0.2", some ""⟩] ["t2"] hec2
        hcredentials (by decide) (List.prefix_refl _) (.cons rfl (.cons rfl .nil)) rfl
    rw [houtcome]
    exact ⟨congrArg Except.ok (by decide), by rw [List.length_map, hlength]; rfl⟩

end NodeDiscovery
