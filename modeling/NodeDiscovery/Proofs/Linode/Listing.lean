import NodeDiscovery.Proofs.Call
import NodeDiscovery.Proofs.Linode.Document
import NodeDiscovery.Proofs.Listing
import Mathlib.Algebra.Group.Nat.Defs

/-! The pages of instances that are asked for. The server numbers them itself, so where the listing
goes next is its word; one that keeps to what it is asked for is asked for one page after
another. -/
namespace NodeDiscovery.Linode
variable {client : Http.Client} {filter : String}

def request (client : Http.Client) (filter : String) (number : Nat) :
    Except Http.Fault Http.Request :=
  client.request "/v4/linode/instances" [("page", toString number), ("page_size", "500")]
    (some filter)

/-- A request of the client for the page of instances with a number. -/
structure Asks (client : Http.Client) (filter : String) (number : Nat) (request : Http.Request) :
    Prop where
  built : Linode.request client filter number = .ok request
  query : [("page", toString number), ("page_size", "500")] <:+
    Http.Form.decode (request.url.query.getD [])

theorem asks_of_built {number : Nat} {request : Http.Request}
    (h : Linode.request client filter number = .ok request) :
    Asks client filter number request :=
  ⟨h, Http.Client.suffix_of_request (List.cons_ne_nil _ _) h⟩

theorem Asks.unique {number number' : Nat} {request : Http.Request}
    (h : Asks client filter number request) (h' : Asks client filter number' request) :
    number = number' := by
  have hsame := (List.suffix_or_suffix_of_suffix h.query h'.query).elim
    (fun hs => hs.eq_of_length rfl) (fun hs => (hs.eq_of_length rfl).symm)
  simp only [List.cons.injEq, Prod.mk.injEq, true_and, and_true] at hsame
  exact Text.toString_injective hsame

/-- The number of the page after one that is not the last: the sum is never too large. -/
theorem toNat_add_one {page : Page} (h : page.page < page.pages) :
    (page.page + 1).toNat = page.page.toNat + 1 := by
  have hlt := UInt32.lt_iff_toNat_lt.mp h
  have hbound := page.pages.toNat_lt
  have hsum : page.page.toNat + (1 : UInt32).toNat < 2 ^ 32 := by
    show page.page.toNat + 1 < 2 ^ 32
    omega
  rw [UInt32.toNat_add, Nat.mod_eq_of_lt hsum]
  rfl

theorem next_eq_some {cursor next : UInt32} {page : Page}
    (h : (listing client filter).next cursor page = some next) :
    page.page < page.pages ∧ next = page.page + 1 := by
  simp only [listing] at h
  split at h
  · next hlt => exact ⟨hlt, (Option.some.inj h).symm⟩
  · cases h

theorem next_eq_none {cursor : UInt32} {page : Page}
    (h : (listing client filter).next cursor page = none) : ¬ page.page < page.pages := by
  intro hlt
  simp only [listing, hlt, if_true, reduceCtorEq] at h

/-- No server gets a request for the page: it cannot be built, or there is nobody who gets it. -/
def Unsent (client : Http.Client) (filter : String) (number : Nat) (replies : List Http.Reply) :
    Prop :=
  (∃ fault, request client filter number = .error fault) ∨ replies.head? = some .unreachable

/-- From a page on, requests for it and for those that follow: each time for the page after the one
that came. They end where no page comes, or one that is the last. -/
inductive Walk (client : Http.Client) (filter : String) :
    Nat → List Http.Reply → List Http.Request → Prop
  | unsent {number : Nat} {replies : List Http.Reply}
      (unsent : Unsent client filter number replies) : Walk client filter number replies []
  | last {number : Nat} {request : Http.Request} {replies : List Http.Reply}
      (asks : Asks client filter number request)
      (ends : ∀ reply page, replies.head? = some reply → reply.Brings Page.ofJson? page →
        ¬ page.page < page.pages) :
      Walk client filter number replies [request]
  | more {number : Nat} {request : Http.Request} {reply : Http.Reply} {replies : List Http.Reply}
      {page : Page} {requests : List Http.Request} (asks : Asks client filter number request)
      (brings : reply.Brings Page.ofJson? page) (goesOn : page.page < page.pages)
      (rest : Walk client filter (page.page.toNat + 1) replies requests) :
      Walk client filter number (reply :: replies) (request :: requests)

theorem fetch_cases (client : Http.Client) (filter : String) (number : UInt32) (reply : Http.Reply)
    (logger : Logger) :
    (((∃ fault, request client filter number.toNat = .error fault) ∨ reply = .unreachable) ∧
        ∃ fault, ((listing client filter).fetch number reply).run logger =
          ⟨.error fault, [], []⟩) ∨
      ∃ sent, Asks client filter number.toNat sent ∧
        ((∃ fault, ((listing client filter).fetch number reply).run logger =
            ⟨.error fault, [], [.web sent]⟩) ∨
          ∃ page, reply.Brings Page.ofJson? page ∧
            ((listing client filter).fetch number reply).run logger =
              ⟨.ok page, [], [.web sent]⟩) := by
  obtain hunsent | ⟨sent, hbuilt, hreply⟩ := Http.run_fetch_cases Page.ofJson?
    (request client filter number.toNat) reply logger
  · exact .inl hunsent
  · exact .inr ⟨sent, asks_of_built hbuilt, hreply⟩

theorem not_brings_of_fetch {number : UInt32} {reply : Http.Reply} {sent : Http.Request}
    {fault : Http.Fault} {events : List Event} {logger : Logger}
    (hasks : Asks client filter number.toNat sent)
    (h : ((listing client filter).fetch number reply).run logger = ⟨.error fault, [], events⟩)
    (page : Page) : ¬ reply.Brings Page.ofJson? page := by
  intro hbrings
  have hrun : (Http.fetch Page.ofJson? (request client filter number.toNat) reply).run logger =
      ⟨.error fault, [], events⟩ := h
  rw [hasks.built, Http.run_fetch hbrings] at hrun
  cases hrun

theorem exists_walk (client : Http.Client) (filter : String) (number : UInt32)
    (replies : List Http.Reply) (logger : Logger) :
    ∃ requests, (((listing client filter).pages number replies).run logger).events =
      requests.map .web ∧ Walk client filter number.toNat replies requests := by
  -- Over the replies, since each one decides whether there is another request.
  induction replies generalizing number with
  | nil =>
    rw [Listing.pages]
    have hends (reply : Http.Reply) (page : Page) (hreply : [].head? = some reply) :
        reply.Brings Page.ofJson? page → ¬ page.page < page.pages := by cases hreply
    obtain ⟨hunsent, fault, hrun⟩ | ⟨sent, hasks, ⟨fault, hrun⟩ | ⟨page, -, hrun⟩⟩ :=
      fetch_cases client filter number (listing client filter).spent logger
    · have hbuilt := hunsent.resolve_right (by rintro ⟨-⟩)
      exact ⟨[], by rw [Call.run_bind_error hrun]; rfl, .unsent (.inl hbuilt)⟩
    · exact ⟨[sent], by rw [Call.run_bind_error hrun]; rfl, .last hasks hends⟩
    · exact ⟨[sent], by rw [Call.run_bind_ok hrun]; rfl, .last hasks hends⟩
  | cons reply later ih =>
    rw [Listing.pages]
    obtain ⟨hunsent, fault, hrun⟩ | ⟨sent, hasks, ⟨fault, hrun⟩ | ⟨page, hbrings, hrun⟩⟩ :=
      fetch_cases client filter number reply logger
    · exact ⟨[], by rw [Call.run_bind_error hrun]; rfl,
        .unsent (hunsent.imp_right (congrArg some))⟩
    · refine ⟨[sent], by rw [Call.run_bind_error hrun]; rfl,
        .last hasks fun _ page hreply hpage => ?_⟩
      obtain rfl := Option.some.inj hreply
      exact absurd hpage (not_brings_of_fetch hasks hrun page)
    · rw [Call.run_bind_ok hrun]
      cases hnext : (listing client filter).next number page with
      | none =>
        refine ⟨[sent], rfl, .last hasks fun _ _ hreply hpage => ?_⟩
        obtain rfl := Option.some.inj hreply
        obtain rfl := hpage.unique hbrings
        exact next_eq_none hnext
      | some next =>
        obtain ⟨hgoesOn, rfl⟩ := next_eq_some hnext
        obtain ⟨requests, hevents, hwalk⟩ := ih (page.page + 1)
        rw [toNat_add_one hgoesOn] at hwalk
        refine ⟨sent :: requests, ?_, .more hasks hbrings hgoesOn hwalk⟩
        have hrest : (((listing client filter).pages (page.page + 1) later >>= fun found =>
            pure (page :: found.1, found.2)).run logger).events = requests.map .web := by
          rw [← hevents]
          exact congrArg Prod.snd (Call.outcome_bind_quiet (fun _ => Call.quiet_pure _) logger)
        exact congrArg (Event.web sent :: ·) hrest

namespace Walk
variable {number : Nat} {replies : List Http.Reply} {requests : List Http.Request}
  {sent : Http.Request}

theorem asks_first (h : Walk client filter number replies requests)
    (hfirst : requests[0]? = some sent) : Asks client filter number sent := by
  cases h with
  | unsent => cases hfirst
  | last asks _ => exact Option.some.inj hfirst ▸ asks
  | more asks _ _ _ => exact Option.some.inj hfirst ▸ asks

/-- Every later request is for the page after the one that just came. -/
theorem asks_next (h : Walk client filter number replies requests) {i : Nat}
    (hnext : requests[i + 1]? = some sent) :
    ∃ reply page, replies[i]? = some reply ∧ reply.Brings Page.ofJson? page ∧
      page.page < page.pages ∧ Asks client filter (page.page.toNat + 1) sent := by
  induction h generalizing i with
  | unsent => cases hnext
  | last => cases hnext
  | @more number request reply replies page requests asks brings goesOn rest ih =>
    cases i with
    | zero => exact ⟨reply, page, rfl, brings, goesOn, rest.asks_first hnext⟩
    | succ i => exact ih hnext

theorem exists_asks (h : Walk client filter number replies requests) (hsent : sent ∈ requests) :
    ∃ number, Asks client filter number sent := by
  obtain ⟨i, hi⟩ := List.mem_iff_getElem?.mp hsent
  cases i with
  | zero => exact ⟨number, h.asks_first hi⟩
  | succ i =>
    obtain ⟨-, page, -, -, -, hasks⟩ := h.asks_next hi
    exact ⟨_, hasks⟩

end Walk

/-- A server that echoes: a page that it brings has the number that was asked for, and tells of no
more pages than the limit. What is on it, and how many pages it tells of, may change. -/
def Echoes (client : Http.Client) (filter : String) (limit : Nat) (requests : List Http.Request)
    (replies : List Http.Reply) : Prop :=
  ∀ exchange ∈ requests.zip replies, ∀ number page, Asks client filter number exchange.1 →
    exchange.2.Brings Page.ofJson? page → page.page.toNat = number ∧ page.pages.toNat ≤ limit

/-- A walk along a server that echoes asks for one page after another, up to the limit. -/
theorem Walk.numbered {number : Nat} {replies : List Http.Reply} {requests : List Http.Request}
    (h : Walk client filter number replies requests) {limit : Nat}
    (hechoes : Echoes client filter limit requests replies) :
    ∃ count ≤ max 1 (limit + 1 - number),
      List.Forall₂ (Asks client filter) (List.range' number count) requests := by
  induction h with
  | unsent => exact ⟨0, Nat.zero_le _, .nil⟩
  | last asks => exact ⟨1, Nat.le_max_left .., .cons asks .nil⟩
  | @more number request reply replies page requests asks brings goesOn rest ih =>
    obtain ⟨hnumber, hpages⟩ :=
      hechoes (request, reply) List.mem_cons_self number page asks brings
    obtain ⟨count, hcount, hrest⟩ := ih fun exchange hexchange =>
      hechoes exchange (List.mem_cons_of_mem _ hexchange)
    have hlt := UInt32.lt_iff_toNat_lt.mp goesOn
    rw [hnumber] at hcount hrest
    refine ⟨count + 1, ?_, .cons asks hrest⟩
    omega

def pageCount (listed : List Instance) : Nat := (listed.length + 499) / 500

def pageOf (listed : List Instance) (number : Nat) : Page :=
  ⟨Listing.slice 500 number listed, .ofNat number, .ofNat (pageCount listed)⟩

/-- A server of a fixed list, which brings every page of it that it is asked for. An empty list has
an empty first page. -/
def Serves (client : Http.Client) (filter : String) (listed : List Instance)
    (serve : Http.Request → Http.Reply) : Prop :=
  ∀ sent number, 1 ≤ number → number ≤ max 1 (pageCount listed) → Asks client filter number sent →
    (serve sent).Brings Page.ofJson? (pageOf listed number)

open Classical in
theorem exists_serves (client : Http.Client) (filter : String) (listed : List Instance) :
    ∃ serve, Serves client filter listed serve := by
  refine ⟨fun sent => if h : ∃ number, Asks client filter number sent then
    (pageOf listed h.choose).reply else .notFound, fun sent number _ _ hasks => ?_⟩
  have h : ∃ number, Asks client filter number sent := ⟨number, hasks⟩
  simp only [dif_pos h, h.choose_spec.unique hasks]
  exact (pageOf listed number).brings_reply

def pageRequest (client : Http.Client) (endpoint : Http.Url) (filter : String) (number : Nat) :
    Http.Request :=
  ⟨endpoint.addQuery [("page", toString number), ("page_size", "500")],
    "Bearer " ++ client.token, client.userAgent, some filter⟩

def requests (client : Http.Client) (endpoint : Http.Url) (filter : String)
    (listed : List Instance) : List Http.Request :=
  (List.range (max 1 (pageCount listed))).map fun i => pageRequest client endpoint filter (i + 1)

section Pages
variable {endpoint : Http.Url} {listed : List Instance} {serve : Http.Request → Http.Reply}

theorem asks_pageRequest (hreaches : client.Reaches "/v4/linode/instances" endpoint)
    (hfilter : Http.isHeaderText filter = true) (number : Nat) :
    Asks client filter number (pageRequest client endpoint filter number) :=
  asks_of_built (hreaches.request_eq (List.cons_ne_nil _ _) hfilter)

theorem run_fetch_page (hreaches : client.Reaches "/v4/linode/instances" endpoint)
    (hfilter : Http.isHeaderText filter = true) (hserves : Serves client filter listed serve)
    (hcountable : pageCount listed < 2 ^ 32) {i : Nat} (hi : i + 1 ≤ max 1 (pageCount listed))
    (logger : Logger) :
    ((listing client filter).fetch (.ofNat (i + 1))
        (serve (pageRequest client endpoint filter (i + 1)))).run logger =
      ⟨.ok (pageOf listed (i + 1)), [], [.web (pageRequest client endpoint filter (i + 1))]⟩ := by
  have hasks := asks_pageRequest hreaches hfilter (i + 1)
  have hsmall : i + 1 < 2 ^ 32 := by omega
  have hnumber : (UInt32.ofNat (i + 1)).toNat = i + 1 := UInt32.toNat_ofNat_of_lt' hsmall
  have hbuilt : request client filter (UInt32.ofNat (i + 1)).toNat =
      .ok (pageRequest client endpoint filter (i + 1)) := by
    rw [hnumber]
    exact hasks.built
  have hbrings := hserves _ (i + 1) (Nat.le_add_left 1 i) hi hasks
  show (Http.fetch Page.ofJson? (request client filter (UInt32.ofNat (i + 1)).toNat) _).run logger
    = _
  rw [hbuilt]
  exact Http.run_fetch hbrings _ logger

theorem visits_pages (hreaches : client.Reaches "/v4/linode/instances" endpoint)
    (hfilter : Http.isHeaderText filter = true) (hserves : Serves client filter listed serve)
    (hcountable : pageCount listed < 2 ^ 32) {last : Nat}
    (hlast : max 1 (pageCount listed) = last + 1) (later : List Http.Reply) (logger : Logger) :
    (listing client filter).Visits logger 1
      ((List.range (last + 1)).map (fun i => serve (pageRequest client endpoint filter (i + 1))) ++
        later)
      ((List.range (last + 1)).map fun i => pageOf listed (i + 1))
      ((List.range (last + 1)).map fun i => .web (pageRequest client endpoint filter (i + 1)))
      later := by
  have hlt (i : Nat) (hi : i ≤ last) :
      UInt32.ofNat (i + 1) < UInt32.ofNat (pageCount listed) ↔ i + 1 < pageCount listed := by
    have hsmall : i + 1 < 2 ^ 32 := by omega
    rw [UInt32.lt_iff_toNat_lt, UInt32.toNat_ofNat_of_lt' hsmall,
      UInt32.toNat_ofNat_of_lt' hcountable]
  refine Listing.visits_of_numbered (fun i => UInt32.ofNat (i + 1))
    (fun i hi => run_fetch_page hreaches hfilter hserves hcountable (by omega) logger)
    (fun i hi => ?_) ?_ later
  · have hmore : UInt32.ofNat (i + 1) < UInt32.ofNat (pageCount listed) := by
      rw [hlt i (by omega)]
      omega
    have hsucc : UInt32.ofNat (i + 1) + 1 = UInt32.ofNat (i + 1 + 1) :=
      (UInt32.ofNat_add (i + 1) 1).symm
    simp only [listing, pageOf, hmore, if_true, hsucc]
  · have hends : ¬ UInt32.ofNat (last + 1) < UInt32.ofNat (pageCount listed) := by
      rw [hlt last (Nat.le_refl last)]
      omega
    simp only [listing, pageOf, hends, if_false]

theorem run_instances (hreaches : client.Reaches "/v4/linode/instances" endpoint)
    (hfilter : Http.isHeaderText filter = true) (hserves : Serves client filter listed serve)
    (hcountable : pageCount listed < 2 ^ 32) (later : List Http.Reply) (logger : Logger) :
    (instances client filter
        ((requests client endpoint filter listed).map serve ++ later)).run logger =
      ⟨.ok (listed, later), [], (requests client endpoint filter listed).map .web⟩ := by
  obtain ⟨last, hlast⟩ : ∃ last, max 1 (pageCount listed) = last + 1 :=
    Nat.exists_eq_add_of_le' (Nat.le_max_left 1 _)
  have hvisits : (listing client filter).Visits logger 1
      ((requests client endpoint filter listed).map serve ++ later)
      ((List.range (last + 1)).map fun i => pageOf listed (i + 1))
      ((requests client endpoint filter listed).map .web) later := by
    rw [requests, hlast, List.map_map, List.map_map]
    exact visits_pages hreaches hfilter hserves hcountable hlast later logger
  have hlisted : ((List.range (last + 1)).map fun i => pageOf listed (i + 1)).flatMap
      Page.instances = listed := by
    rw [List.flatMap_def, List.map_map]
    refine (Listing.flatten_slices 500 _ _).trans (List.take_of_length_le ?_)
    unfold pageCount at hlast
    omega
  unfold instances
  rw [Call.run_bind_ok (Call.run_mapError_ok hvisits.run_pages _)]
  simp only
  rw [hlisted]
  simp

end Pages

theorem events_instances (client : Http.Client) (filter : String) (replies : List Http.Reply)
    (logger : Logger) : ((instances client filter replies).run logger).events =
      (((listing client filter).pages 1 replies).run logger).events :=
  congrArg Prod.snd (Call.outcome_bind_quiet (fun _ => Call.quiet_pure _) logger)

/-- Paging is safe and complete. Along any server the requests are a walk from the first page, and
along one that echoes they are for one page after another, no more than it tells of. A server of a
fixed list is asked for all of it, and that is what is found. The number of the next page is never
too large. -/
theorem instances_safe_complete (client : Http.Client) (filter : String) (logger : Logger) :
    (∀ replies, ∃ asked,
      ((instances client filter replies).run logger).events = asked.map .web ∧
      Walk client filter 1 replies asked ∧
      ∀ limit, Echoes client filter limit asked replies → ∃ count ≤ max 1 limit,
        List.Forall₂ (Asks client filter) (List.range' 1 count) asked) ∧
    (∀ endpoint listed serve later, client.Reaches "/v4/linode/instances" endpoint →
      Http.isHeaderText filter = true → Serves client filter listed serve →
      pageCount listed < 2 ^ 32 → ∃ asked,
        List.Forall₂ (Asks client filter) (List.range' 1 (max 1 (pageCount listed))) asked ∧
        (instances client filter (asked.map serve ++ later)).run logger =
          ⟨.ok (listed, later), [], asked.map .web⟩) ∧
    ∀ cursor page next, (listing client filter).next cursor page = some next →
      next.toNat = page.page.toNat + 1 := by
  refine ⟨fun replies => ?_, fun endpoint listed serve later hreaches hfilter hserves
    hcountable => ?_, fun cursor page next hnext => ?_⟩
  · obtain ⟨asked, hevents, hwalk⟩ := exists_walk client filter 1 replies logger
    exact ⟨asked, (events_instances client filter replies logger).trans hevents, hwalk,
      fun limit hechoes => hwalk.numbered hechoes⟩
  · refine ⟨_, ?_, run_instances hreaches hfilter hserves hcountable later logger⟩
    rw [requests, List.range'_eq_map_range, List.forall₂_map_left_iff, List.forall₂_map_right_iff,
      List.forall₂_same]
    intro i _
    rw [Nat.add_comm 1 i]
    exact asks_pageRequest hreaches hfilter (i + 1)
  · obtain ⟨hgoesOn, rfl⟩ := next_eq_some hnext
    exact toNat_add_one hgoesOn

/-- A listing that grows while it is read, and one that takes two pages. -/
theorem instances_safe_complete_sample :
    let client : Http.Client := ⟨"http://[::1]:8080", none, "t"⟩
    let growing : List Http.Reply := [.response 200 "[[],1,2]", .response 200 "[[],2,3]"]
    let listed : List Instance :=
      (List.range 501).map fun i => ⟨.ofNat i, "a", ["10.0.0.1"], some "fe80::1/64"⟩
    (∃ asked, ((instances client "\x7b\x7d" growing).run Logger.discard).events = asked.map .web ∧
      Echoes client "\x7b\x7d" 3 asked growing ∧
      ∃ count ≤ 3, List.Forall₂ (Asks client "\x7b\x7d") (List.range' 1 count) asked) ∧
    ∃ serve asked, Serves client "\x7b\x7d" listed serve ∧
      List.Forall₂ (Asks client "\x7b\x7d") [1, 2] asked ∧
      (instances client "\x7b\x7d" (asked.map serve)).run Logger.discard =
        ⟨.ok (listed, []), [], asked.map .web⟩ := by
  intro client growing listed
  have hone : (Http.Reply.response 200 "[[],1,2]").Brings Page.ofJson? ⟨[], 1, 2⟩ :=
    Http.Reply.brings_of_read (by decide +kernel)
  have htwo : (Http.Reply.response 200 "[[],2,3]").Brings Page.ofJson? ⟨[], 2, 3⟩ :=
    Http.Reply.brings_of_read (by decide +kernel)
  constructor
  · obtain ⟨asked, hevents, hwalk, hlimit⟩ :=
      (instances_safe_complete client "\x7b\x7d" Logger.discard).1 growing
    have hechoes : Echoes client "\x7b\x7d" 3 asked growing := by
      rintro ⟨sent, reply⟩ hexchange number page hasks hpage
      obtain ⟨i, hi⟩ := List.mem_iff_getElem?.mp hexchange
      obtain ⟨hsent, hreply⟩ := List.getElem?_zip_eq_some.mp hi
      rcases i with _ | _ | i
      · obtain rfl : .response 200 "[[],1,2]" = reply := Option.some.inj hreply
        obtain rfl := hpage.unique hone
        obtain rfl := hasks.unique (hwalk.asks_first hsent)
        decide
      · obtain rfl : .response 200 "[[],2,3]" = reply := Option.some.inj hreply
        obtain rfl := hpage.unique htwo
        obtain ⟨earlier, before, hearlier, hbefore, -, hasked⟩ := hwalk.asks_next hsent
        obtain rfl : .response 200 "[[],1,2]" = earlier := Option.some.inj hearlier
        obtain rfl := hbefore.unique hone
        obtain rfl := hasks.unique hasked
        decide
      · cases hreply
    exact ⟨asked, hevents, hechoes, hlimit 3 hechoes⟩
  · have hparsed : Http.Url.parse ("http://[::1]:8080" ++ "/v4/linode/instances") =
        .ok ⟨"http".toList, some "[::1]:8080".toList, "/v4/linode/instances".toList, none,
          none⟩ := by
      decide +kernel
    have hpages : pageCount listed = 2 := by simp [pageCount, listed]
    obtain ⟨serve, hserves⟩ := exists_serves client "\x7b\x7d" listed
    obtain ⟨asked, hasked, hrun⟩ := (instances_safe_complete client "\x7b\x7d"
      Logger.discard).2.1 _ listed serve [] ⟨hparsed, by decide, by decide, by decide, by decide⟩
        (by decide) hserves (by rw [hpages]; decide)
    rw [List.append_nil] at hrun
    rw [hpages] at hasked
    exact ⟨serve, asked, hserves, hasked, hrun⟩

end NodeDiscovery.Linode
