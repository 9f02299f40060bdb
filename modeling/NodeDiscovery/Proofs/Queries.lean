import NodeDiscovery.Proofs.Http.Query
import NodeDiscovery.Proofs.Identity
import NodeDiscovery.Proofs.Linode.LinkLocal
import NodeDiscovery.Proofs.Walk

/-! What servers read from the queries of listings. Whatever the options and the cursors hold, they
stay values: a server reads the pairs that the provider wrote, and no others. -/
namespace NodeDiscovery

namespace Call
variable {ε α : Type} {P Q : Http.Request → Prop} {x : Call ε α}

/-- All that the call does is to send requests with a property. -/
def Sends (x : Call ε α) (P : Http.Request → Prop) : Prop :=
  ∀ logger, ∀ event ∈ (x.run logger).events, ∃ request, event = .web request ∧ P request

theorem Sends.imp (h : x.Sends P) (hPQ : ∀ request, P request → Q request) : x.Sends Q := by
  intro logger event hevent
  obtain ⟨request, hsent, hP⟩ := h logger event hevent
  exact ⟨request, hsent, hPQ request hP⟩

theorem Refuses.sends (h : x.Refuses) (P : Http.Request → Prop) : x.Sends P := by
  intro logger event hevent
  rw [h.events_eq_nil logger] at hevent
  cases hevent

end Call

namespace Http
variable {ι α : Type} {client : Client} {path : String} {filter : Option String}
  {pairs : List (String × String)}

/-- The call puts the pairs to an endpoint. It sends no request but ones from which they are read,
and where there is an endpoint and somebody to reply it sends one. -/
structure Client.Puts (client : Client) (path : String) (filter : Option String)
    (pairs : List (String × String)) (ask : Reply → Call Fault α) : Prop where
  reads : ∀ reply, (ask reply).Sends (Request.Reads client.baseUrl pairs)
  sends : ∀ endpoint, client.Reaches path endpoint → filter.all isHeaderText = true →
    ∀ reply, reply.isReceived = true → ∀ logger,
      ∃ request, ((ask reply).run logger).events = [.web request]

theorem Client.puts_fetch (read : Json → Option α) (hpath : '?' ∉ path.toList)
    (hpairs : pairs ≠ []) :
    client.Puts path filter pairs (fetch read (client.request path pairs filter)) where
  reads := by
    intro reply logger event hevent
    cases hbuilt : client.request path pairs filter with
    | error fault =>
      rw [hbuilt] at hevent
      cases hevent
    | ok sent =>
      rw [hbuilt, run_fetch_document] at hevent
      obtain ⟨-, hsent⟩ := List.mem_ite_nil_right.mp hevent
      exact ⟨sent, List.mem_singleton.mp hsent, Client.reads_of_request hpath hbuilt⟩
  sends := by
    intro endpoint hreaches hfilter reply hreceived logger
    have hrequest := hreaches.request_eq hpairs hfilter
    refine ⟨⟨endpoint.addQuery pairs, "Bearer " ++ client.token, client.userAgent, filter⟩, ?_⟩
    rw [hrequest, run_fetch_document, if_pos hreceived]

theorem sends_of_allOrNothing {request : ι → Except Fault Request}
    {leads : ι → Json → Option (Option ι)} {tell : ι → Fault → String} {script : List Reply}
    {first : ι}
    {x : Call ProviderError (List String)} {P : Request → Prop}
    (h : ∀ logger, ∃ asked,
      (service request leads).AllOrNothing tell script first asked (x.outcome logger))
    (hP : ∀ q sent, request q = .ok sent → P sent) : x.Sends P := by
  intro logger event hevent
  obtain ⟨asked, hall⟩ := h logger
  obtain ⟨q, sent, hbuilt, hsent⟩ := mem_events hall hevent
  exact ⟨sent, hsent, hP q sent hbuilt⟩

end Http

section Web
variable (client : Http.Client) (world : World) (c : Config)

theorem DigitalOcean.sends_find :
    (find client.baseUrl client.userAgent world c).Sends fun request => ∃ tag rest page,
      tags c = .ok (tag, rest) ∧ request.Reads client.baseUrl
        [("page", toString (page : Int32)), ("per_page", toString perPage), ("tag_name", tag)] := by
  rcases refuses_or_employs client.baseUrl client.userAgent world c with
    hrefuses | ⟨token, first, rest, h, hrequires⟩
  · exact hrefuses.sends _
  · refine Http.sends_of_allOrNothing (fun logger => allOrNothing_find h hrequires logger)
      fun page sent hbuilt => ?_
    have hreads := Http.Client.reads_of_request (by decide) hbuilt
    exact ⟨first, rest, page, tags_eq_ok_iff.mpr hrequires, hreads⟩

theorem Hetzner.sends_find :
    (find client.baseUrl client.userAgent world c).Sends fun request => ∃ page,
      request.Reads client.baseUrl (query (c.getD "label_selector") page) := by
  rcases refuses_or_employs client.baseUrl client.userAgent world c with hrefuses | ⟨token, h⟩
  · exact hrefuses.sends _
  · refine Http.sends_of_allOrNothing (fun logger => allOrNothing_find h logger)
      fun page sent hbuilt => ?_
    have hreads := Http.Client.reads_of_request (by decide) hbuilt
    exact ⟨page, hreads⟩

/-- Besides the pages of its listing a search asks for the addresses of instances, with no query. -/
theorem Linode.sends_find :
    (find client.baseUrl client.userAgent world c).Sends fun request =>
      (∃ page, request.Reads client.baseUrl
        [("page", toString (page : UInt32)), ("page_size", toString pageSize)]) ∨
      ∃ (id : UInt64) (token : String),
        Http.Client.request ⟨client.baseUrl, client.userAgent, token⟩
          s!"/v4/linode/instances/{id}/ips" [] none = .ok request ∧
        request.Reads client.baseUrl [] := by
  rcases refuses_or_employs client.baseUrl client.userAgent world c with
    hrefuses | ⟨token, kind, h, hkind⟩
  · exact hrefuses.sends _
  · refine Http.sends_of_allOrNothing (fun logger => allOrNothing_find h hkind logger)
      fun q sent hbuilt => ?_
    cases q with
    | page number listed =>
      have hreads := Http.Client.reads_of_request (by decide) hbuilt
      exact .inl ⟨number, hreads⟩
    | ips id others =>
      have hpath : '?' ∉ s!"/v4/linode/instances/{id}/ips".toList := fun hmem => by
        exact absurd ((within_ips id).plain _ hmem) (by decide)
      have hreads := Http.Client.reads_of_request hpath hbuilt
      exact .inr ⟨id, token, hbuilt, hreads⟩

theorem Vultr.sends_find :
    (find client.baseUrl client.userAgent world c).Sends fun request => ∃ cursor,
      request.Reads client.baseUrl (query (c.getD "tag_name") cursor) := by
  rcases refuses_or_employs client.baseUrl client.userAgent world c with hrefuses | ⟨token, h⟩
  · exact hrefuses.sends _
  · refine Http.sends_of_allOrNothing (fun logger => allOrNothing_find h logger)
      fun cursor sent hbuilt => ?_
    have hreads := Http.Client.reads_of_request (by decide) hbuilt
    exact ⟨cursor, hreads⟩

end Web

/-- No option and no cursor adds to a query. From each request for a page a server reads the pairs
that the provider lists, in their order and with their values as they are, and all requests of a
search are such requests. -/
theorem queries_read_back (client : Http.Client) (world : World) (c : Config) :
    let droplets (tag : String) (page : Int32) : List (String × String) :=
      [("page", toString page), ("per_page", "200"), ("tag_name", tag)]
    let servers (selector : String) (page : UInt32) : List (String × String) :=
      [("status", "running"), ("page", toString page), ("per_page", "50")] ++
        Http.criterion "label_selector" selector
    let linodes (page : UInt32) : List (String × String) :=
      [("page", toString page), ("page_size", "500")]
    let instances (tag cursor : String) : List (String × String) :=
      [("per_page", "500")] ++ Http.criterion "tag" tag ++ Http.criterion "cursor" cursor
    ((∀ tag page, client.Puts "/v2/droplets" none (droplets tag page)
        ((DigitalOcean.listing client tag).fetch page)) ∧
      (DigitalOcean.find client.baseUrl client.userAgent world c).Sends fun request =>
        ∃ tag rest page, DigitalOcean.tags c = .ok (tag, rest) ∧
          request.Reads client.baseUrl (droplets tag page)) ∧
    ((∀ selector page, client.Puts "/v1/servers" none (servers selector page)
        ((Hetzner.listing client selector).fetch page)) ∧
      (Hetzner.find client.baseUrl client.userAgent world c).Sends fun request =>
        ∃ page, request.Reads client.baseUrl (servers (c.getD "label_selector") page)) ∧
    ((∀ filter page, client.Puts "/v4/linode/instances" (some filter) (linodes page)
        ((Linode.listing client filter).fetch page)) ∧
      (Linode.find client.baseUrl client.userAgent world c).Sends fun request =>
        (∃ page, request.Reads client.baseUrl (linodes page)) ∨
        ∃ (id : UInt64) (token : String),
          Http.Client.request ⟨client.baseUrl, client.userAgent, token⟩
            s!"/v4/linode/instances/{id}/ips" [] none = .ok request ∧
          request.Reads client.baseUrl []) ∧
    (∀ tag cursor, client.Puts "/v2/instances" none (instances tag cursor)
        ((Vultr.listing client tag).fetch cursor)) ∧
      (Vultr.find client.baseUrl client.userAgent world c).Sends fun request =>
        ∃ cursor, request.Reads client.baseUrl (instances (c.getD "tag_name") cursor) := by
  intro droplets servers linodes instances
  have hservers (selector : String) (page : UInt32) :
      Hetzner.query selector page = servers selector page := Hetzner.query_eq selector page
  have hinstances (tag cursor : String) : Vultr.query tag cursor = instances tag cursor :=
    Vultr.query_eq tag cursor
  refine ⟨⟨fun tag page => ?_, DigitalOcean.sends_find client world c⟩,
    ⟨fun selector page => ?_, ?_⟩, ⟨fun filter page => ?_, Linode.sends_find client world c⟩,
    fun tag cursor => ?_, ?_⟩
  · exact Http.Client.puts_fetch _ (by decide) (List.cons_ne_nil _ _)
  · rw [← hservers]
    exact Http.Client.puts_fetch _ (by decide) (List.cons_ne_nil _ _)
  · refine (Hetzner.sends_find client world c).imp ?_
    rintro request ⟨page, h⟩
    exact ⟨page, hservers _ page ▸ h⟩
  · exact Http.Client.puts_fetch _ (by decide) (List.cons_ne_nil _ _)
  · rw [← hinstances]
    exact Http.Client.puts_fetch _ (by decide) (List.cons_ne_nil _ _)
  · refine (Vultr.sends_find client world c).imp ?_
    rintro request ⟨cursor, h⟩
    exact ⟨cursor, hinstances _ cursor ▸ h⟩

/-- Separators in a tag, a selector or a cursor reach the server as parts of it. -/
theorem queries_read_back_separators :
    let client : Http.Client := ⟨"http://[::1]:8080", none, "t"⟩
    let text := "a&page=2#+%26 é"
    let asks {α : Type} (x : Call Http.Fault α) (pairs : List (String × String)) : Prop :=
      ∃ request, (x.run .discard).events = [.web request] ∧ request.pairs = pairs
    asks ((DigitalOcean.listing client text).fetch 1 .closed)
        [("page", "1"), ("per_page", "200"), ("tag_name", text)] ∧
      asks ((Hetzner.listing client text).fetch 1 .closed)
        [("status", "running"), ("page", "1"), ("per_page", "50"), ("label_selector", text)] ∧
      asks ((Linode.listing client (Linode.instanceFilter "" text)).fetch 1 .closed)
        [("page", "1"), ("page_size", "500")] ∧
      asks ((Vultr.listing client "").fetch text .closed)
        [("per_page", "500"), ("cursor", text)] := by
  intro client text asks
  have hasks {α : Type} {ask : Http.Reply → Call Http.Fault α} {path : String}
      {filter : Option String} {pairs : List (String × String)} {endpoint : Http.Url}
      (hputs : client.Puts path filter pairs ask) (hreaches : client.Reaches path endpoint)
      (hfilter : filter.all Http.isHeaderText = true) : asks (ask .closed) pairs := by
    obtain ⟨request, hevents⟩ := hputs.sends endpoint hreaches hfilter .closed rfl .discard
    have hmem : Event.web request ∈ ((ask .closed).run .discard).events := by
      rw [hevents]
      exact List.mem_singleton_self _
    obtain ⟨sent, hsent, own, hpairs, hown⟩ := hputs.reads .closed .discard _ hmem
    obtain rfl := Event.web.inj hsent
    rw [hown (by decide), List.nil_append] at hpairs
    exact ⟨request, hevents, hpairs⟩
  have hreaches (path : String)
      (hparsed : Http.Url.parse (client.baseUrl ++ path) =
        .ok ⟨"http".toList, some "[::1]:8080".toList, path.toList, none, none⟩) :
      client.Reaches path ⟨"http".toList, some "[::1]:8080".toList, path.toList, none, none⟩ :=
    ⟨hparsed, rfl, rfl, by decide, rfl⟩
  obtain ⟨⟨hdroplets, -⟩, ⟨hservers, -⟩, ⟨hlinodes, -⟩, hinstances, -⟩ :=
    queries_read_back client (World.offline []) (.ofList [])
  exact ⟨hasks (hdroplets text 1) (hreaches _ (by decide +kernel)) rfl,
    hasks (hservers text 1) (hreaches _ (by decide +kernel)) rfl,
    hasks (hlinodes _ 1) (hreaches _ (by decide +kernel)) (by decide),
    hasks (hinstances "" text) (hreaches _ (by decide +kernel)) rfl⟩

end NodeDiscovery
