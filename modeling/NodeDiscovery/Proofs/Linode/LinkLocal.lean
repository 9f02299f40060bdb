import NodeDiscovery.Proofs.Http.Folder
import NodeDiscovery.Proofs.Linode.Listing
import NodeDiscovery.Proofs.Linode.Search
import NodeDiscovery.World.Offline

/-! Link-local addresses: each instance is asked about by itself, in the order of the listing, and
the n-th answer is for the n-th of them. The first that brings no addresses ends the call where it
is. -/
namespace NodeDiscovery

namespace Http
variable {α : Type} {read : Json → Option α} {reply : Reply}

theorem exists_fault_of_not_brings (h : ∀ a, ¬ reply.Brings read a) (request : Request) :
    ∃ fault, reply.document read request.url.text = .error fault := by
  cases hdocument : reply.document read request.url.text with
  | error fault => exact ⟨fault, rfl⟩
  | ok a =>
    have hrun := run_fetch_document read request reply .discard
    rw [hdocument] at hrun
    obtain ⟨-, fault, hfault⟩ | ⟨_, -, ⟨fault, hfault⟩ | ⟨a', ha', -⟩⟩ :=
      run_fetch_cases read (.ok request) reply .discard
    · rw [hfault] at hrun
      cases hrun
    · rw [hfault] at hrun
      cases hrun
    · exact absurd ha' (h a')

end Http

namespace Linode
open Http (Reply)
variable {client : Http.Client} {world : World} {c : Config} {kind : AddressKind}
  {request : UInt64 → Http.Request}

/-- The answers to some questions, the first ones of the script. Where that ends, the server has no
more to say. -/
def answers (count : Nat) (replies : List Reply) : List Reply :=
  (List.range count).map fun k => replies.getD k .notFound

def present (found : List (Option String)) : List String :=
  found.filterMap fun address => address.filter (· ≠ "")

def told (listed : List Instance) (found : List (Option String)) : List Record :=
  (listed.zip found).flatMap fun p => p.1.records .privateV6 (p.2.filter (· ≠ "")).toList

/-- The requests for the addresses of all instances can be built. -/
def Asked (client : Http.Client) (request : UInt64 → Http.Request) : Prop :=
  ∀ id, client.request s!"/v4/linode/instances/{id}/ips" [] none = .ok (request id)

theorem answers_succ (count : Nat) (replies : List Reply) :
    answers (count + 1) replies = replies.headD .notFound :: answers count replies.tail := by
  rw [answers, List.range_succ_eq_map, List.map_cons, List.map_map]
  cases replies <;> simp [answers, Function.comp_def]

theorem present_cons (address : Option String) (found : List (Option String)) :
    present (address :: found) = (address.filter (· ≠ "")).toList ++ present found := by
  rw [present, List.filterMap_cons]
  cases address.filter (· ≠ "") <;> rfl

theorem run_linkLocal (hasked : Asked client request) {reply : Reply} {address : Option String}
    (h : reply.Brings ipsOfJson? address) (id : UInt64) (logger : Logger) :
    (linkLocal client id reply).run logger =
      ⟨.ok (address.filter (· ≠ "")), [], [.web (request id)]⟩ := by
  rw [linkLocal, hasked id, Call.run_bind_ok (Call.run_mapError_ok (Http.run_fetch h _ logger) _)]
  rfl

theorem run_linkLocal_error (hasked : Asked client request) {reply : Reply}
    (h : ∀ address, ¬ reply.Brings ipsOfJson? address) (id : UInt64) (others : List UInt64)
    (logger : Logger) :
    ∃ fault, (linkLocal client id reply).run logger =
      ⟨.error (Question.failure (.ips id others) fault), [],
        if reply.isReceived then [.web (request id)] else []⟩ := by
  obtain ⟨fault, hfault⟩ := Http.exists_fault_of_not_brings h (request id)
  have hrun := Http.run_fetch_document ipsOfJson? (request id) reply logger
  rw [hfault] at hrun
  refine ⟨fault, ?_⟩
  rw [linkLocal, hasked id]
  refine Call.run_bind_error (?_ : (Call.mapError _ _).run logger = _)
  rw [Call.run_mapError, hrun]
  rfl

theorem run_linkLocals_append (hasked : Asked client request) {before : List Instance}
    {replies : List Reply} {found : List (Option String)}
    (h : List.Forall₂ (Reply.Brings ipsOfJson?) (answers before.length replies) found)
    (rest : List Instance) (logger : Logger) :
    let later := (linkLocals client rest (replies.drop before.length)).run logger
    (linkLocals client (before ++ rest) replies).run logger =
      ⟨later.result.map (present found ++ ·), logger.taken (told before found) ++ later.log,
        (before.map fun i => .web (request i.id)) ++ later.events⟩ := by
  induction before generalizing replies found with
  | nil =>
    obtain rfl := List.forall₂_nil_left_iff.mp h
    intro later
    have hsame : later.result.map (present [] ++ ·) = later.result := by
      cases later.result <;> rfl
    rw [hsame]
    rfl
  | cons i before ih =>
    rw [List.length_cons, answers_succ] at h
    obtain ⟨address, found, hfirst, hrest, rfl⟩ := List.forall₂_cons_left_iff.mp h
    intro later
    have hreplies : replies.tail.drop before.length = replies.drop (i :: before).length := by
      rw [← List.drop_one, List.drop_drop, List.length_cons, Nat.add_comm]
    have hmore := ih hrest
    rw [hreplies] at hmore
    rw [List.cons_append, linkLocals, Call.run_bind_ok (run_linkLocal hasked hfirst i.id logger),
      Call.run_bind_ok (writes_report .privateV6 i _ logger), Call.run_bind, hmore]
    cases hresult : later.result with
    | error e => simp [later, told, Except.map]
    | ok more => simp [later, told, present_cons, Except.map]

/-! The paths of both kinds of requests lie in one folder, so if the listing can be asked for, so
can the addresses of each instance. -/

theorem isPlain_of_isDigit {c : Char} (h : c.isDigit = true) : Http.Url.isPlain c = true := by
  rw [Char.isDigit_iff_toNat] at h
  obtain ⟨hlow, hhigh⟩ := h
  have hne (d : Char) (hd : ¬ ('0'.toNat ≤ d.toNat ∧ d.toNat ≤ '9'.toNat)) : c ≠ d := fun he =>
    hd (he ▸ ⟨hlow, hhigh⟩)
  refine Http.Url.isPlain_iff.mpr ⟨?_, hne _ (by decide), hne _ (by decide), hne _ (by decide)⟩
  exact Nat.lt_of_lt_of_le (by decide : ' '.toNat < '0'.toNat) hlow

theorem within_instances : Http.Url.Within "v4".toList "/v4/linode/instances" :=
  ⟨List.all_eq_true.mp (by decide), "linode/instances".toList, rfl⟩

theorem within_ips (id : UInt64) :
    Http.Url.Within "v4".toList s!"/v4/linode/instances/{id}/ips" := by
  have hpath : (s!"/v4/linode/instances/{id}/ips").toList =
      "/v4/linode/instances/".toList ++ (Nat.toDigits 10 id.toNat ++ "/ips".toList) := by
    have hid : (toString id).toList = Nat.toDigits 10 id.toNat := Nat.toList_repr
    rw [← hid, ← String.toList_append, ← String.toList_append, ← String.append_assoc]
    rfl
  constructor
  · intro c hc
    rw [hpath, List.mem_append, List.mem_append] at hc
    obtain hc | hc | hc := hc
    · exact List.all_eq_true.mp
        (by decide : "/v4/linode/instances/".toList.all Http.Url.isPlain = true) c hc
    · exact isPlain_of_isDigit (Nat.isDigit_of_mem_toDigits (by decide) (by decide) hc)
    · exact List.all_eq_true.mp (by decide : "/ips".toList.all Http.Url.isPlain = true) c hc
  · exact ⟨"linode/instances/".toList ++ (Nat.toDigits 10 id.toNat ++ "/ips".toList), hpath⟩

/-- After a listing that came, each instance can be asked about. -/
theorem exists_asked {filter : String} {replies : List Reply} {logger : Logger}
    {found : List Instance × List Reply}
    (h : ((instances client filter replies).run logger).result = .ok found) :
    ∃ request, Asked client request := by
  obtain ⟨_, hpages, -⟩ := Call.run_bind_eq_ok h
  have hpages := Call.run_mapError_eq_ok hpages
  obtain ⟨reply, page, hfirst⟩ : ∃ reply page,
      (((listing client filter).fetch 1 reply).run logger).result = .ok page := by
    cases replies with
    | nil =>
      obtain ⟨page, hpage, -⟩ := Call.run_bind_eq_ok hpages
      exact ⟨.notFound, page, hpage⟩
    | cons reply rest =>
      obtain ⟨page, hpage, -⟩ := Call.run_bind_eq_ok hpages
      exact ⟨reply, page, hpage⟩
  obtain ⟨-, fault, hrun⟩ | ⟨sent, hasks, -⟩ := fetch_cases client filter 1 reply logger
  · rw [hrun] at hfirst
    cases hfirst
  · have hfolder : ∃ c ∈ "v4".toList, c ≠ '/' := ⟨'v', by decide, by decide⟩
    choose request hrequest using fun id : UInt64 =>
      Http.Client.exists_request_within hfolder hasks.built within_instances (within_ips id) []
    exact ⟨request, hrequest⟩

/-- The listing asks about no single instance: its requests are restricted by the filter. -/
theorem not_mem_events_instances {filter : String} {replies : List Reply} {logger : Logger}
    {id : UInt64} {sent : Http.Request}
    (hsent : client.request s!"/v4/linode/instances/{id}/ips" [] none = .ok sent) :
    Event.web sent ∉ ((instances client filter replies).run logger).events := by
  intro hmem
  obtain ⟨requests, hevents, hwalk⟩ := exists_walk client filter 1 replies logger
  rw [events_instances, hevents] at hmem
  obtain ⟨page, hrequest, hpage⟩ := List.mem_map.mp hmem
  obtain rfl : page = sent := Event.web.inj hpage
  obtain ⟨number, hasks⟩ := hwalk.exists_asks hrequest
  obtain ⟨_, -, -, -, -, -, hpage⟩ := Http.Client.request_eq_ok_iff.mp hasks.built
  obtain ⟨_, -, -, -, -, -, rfl⟩ := Http.Client.request_eq_ok_iff.mp hsent
  exact absurd (congrArg Http.Request.filter hpage) (by simp)

theorem events_find_of_ne (h : c.Employs world.env providerName "LINODE_TOKEN" client)
    (hkind : c.parsed "address_type" AddressKind.read default = .ok kind) (hne : kind ≠ .privateV6)
    (logger : Logger) :
    ((find client.baseUrl client.userAgent world c).run logger).events =
      ((instances client (instanceFilter (c.getD "region") (c.getD "tag_name"))
        world.web).run logger).events := by
  have htold (found : List Instance × List Reply) := (writes_addressesOf client hne found).quiet
  exact congrArg Prod.snd ((outcome_find h hkind logger).trans
    (Call.outcome_bind_quiet htold logger))

section Listed
variable {listed before after : List Instance} {i : Instance} {later : List Reply}
  {found : List (Option String)} {logger : Logger} {events : List Event}

theorem run_linkLocals_of_brings (hasked : Asked client request)
    (hfound : List.Forall₂ (Reply.Brings ipsOfJson?) (answers listed.length later) found) :
    (linkLocals client listed later).run logger =
      ⟨.ok (present found), logger.taken (told listed found),
        listed.map fun i => .web (request i.id)⟩ := by
  have hrun := run_linkLocals_append hasked hfound [] logger
  rw [List.append_nil] at hrun
  rw [hrun]
  simp [linkLocals, Except.map]

/-- The first instance without an answer is the last one that is asked about. -/
theorem run_linkLocals_of_not_brings (hasked : Asked client request)
    (hfound : List.Forall₂ (Reply.Brings ipsOfJson?) (answers before.length later) found)
    (hfault : ∀ address, ¬ (later.getD before.length .notFound).Brings ipsOfJson? address) :
    ∃ fault, (linkLocals client (before ++ i :: after) later).run logger =
      ⟨.error (Question.failure (.ips i.id (after.map Instance.id)) fault),
        logger.taken (told before found),
        (before.map fun i => .web (request i.id)) ++
          if (later.getD before.length .notFound).isReceived then [.web (request i.id)]
          else []⟩ := by
  obtain ⟨fault, hone⟩ := run_linkLocal_error hasked hfault i.id
    (after.map Instance.id) logger
  have hnext : (later.drop before.length).headD .notFound =
      later.getD before.length .notFound := by
    rw [List.headD_eq_head?_getD, List.head?_drop, List.getD_eq_getElem?_getD]
  refine ⟨fault, ?_⟩
  rw [run_linkLocals_append hasked hfound (i :: after) logger, linkLocals, hnext,
    Call.run_bind_error hone]
  simp [Except.map]

theorem run_find_of_listed (h : c.Employs world.env providerName "LINODE_TOKEN" client)
    (hkind : c.parsed "address_type" AddressKind.read default = .ok .privateV6)
    (hlisted : (instances client (instanceFilter (c.getD "region") (c.getD "tag_name"))
      world.web).run logger = ⟨.ok (listed, later), [], events⟩) :
    (find client.baseUrl client.userAgent world c).run logger =
      let search := (linkLocals client listed later >>= fun addresses => do
        Call.log .debug target (closing addresses).text
        return addresses).run logger
      ⟨search.result,
        logger.taken [opening .privateV6 (c.getD "region") (c.getD "tag_name")] ++ search.log,
        events ++ search.events⟩ := by
  rw [find_of_employs h hkind, Call.run_bind_ok (Call.run_log _ _ _ _), Call.run_bind_ok hlisted]
  rfl

/-- Each instance is asked about once, in order.

Before there is a listing, and for other kinds of addresses at all, no instance is asked about. For
link-local addresses the instances of the listing are, one by one. If each answer brings an address
or says that there is none, the result is those that are there, in the order of the listing. The
first answer that does not ends the call: it names its instance, nothing is found, and what was told
is of the instances before. That request, too, was the last one; a server got it if it could be
reached. -/
theorem find_asks_in_order (h : c.Employs world.env providerName "LINODE_TOKEN" client)
    (hkind : c.parsed "address_type" AddressKind.read default = .ok kind) (logger : Logger) :
    let listing := (instances client (instanceFilter (c.getD "region") (c.getD "tag_name"))
      world.web).run logger
    let start := opening kind (c.getD "region") (c.getD "tag_name")
    let run := (find client.baseUrl client.userAgent world c).run logger
    (∀ (id : UInt64) sent, client.request s!"/v4/linode/instances/{id}/ips" [] none = .ok sent →
      Event.web sent ∉ listing.events) ∧
    (kind ≠ .privateV6 → run.events = listing.events) ∧
    ∀ listed later, kind = .privateV6 → listing.result = .ok (listed, later) →
      ∃ request : UInt64 → Http.Request,
        (∀ id, client.request s!"/v4/linode/instances/{id}/ips" [] none = .ok (request id)) ∧
        (∀ found, List.Forall₂ (Reply.Brings ipsOfJson?) (answers listed.length later) found →
          run = ⟨.ok (present found),
            logger.taken (start :: told listed found ++ [closing (present found)]),
            listing.events ++ listed.map fun i => .web (request i.id)⟩) ∧
        ∀ before i after found, listed = before ++ i :: after →
          List.Forall₂ (Reply.Brings ipsOfJson?) (answers before.length later) found →
          (∀ address, ¬ (later.getD before.length .notFound).Brings ipsOfJson? address) →
          ∃ reason, run = ⟨.error (.requestFailed
              (s!"Fetching Linode IP address for instance {i.id} failed: " ++ reason)),
            logger.taken (start :: told before found),
            listing.events ++ (before.map fun i => .web (request i.id)) ++
              if (later.getD before.length .notFound).isReceived then [.web (request i.id)]
              else []⟩ := by
  intro listing start run
  refine ⟨fun _ _ => not_mem_events_instances,
    fun hne => events_find_of_ne h hkind hne logger, ?_⟩
  rintro listed later rfl hresult
  obtain ⟨request, hasked⟩ := exists_asked hresult
  obtain ⟨events, hlisted⟩ := (silent_instances _ _ _).exists_run hresult
  have hevents : listing.events = events := congrArg Trace.events hlisted
  have hrun := run_find_of_listed h hkind hlisted
  rw [hevents]
  refine ⟨request, hasked, fun found hfound => ?_, ?_⟩
  · rw [Call.run_bind_ok (run_linkLocals_of_brings hasked hfound),
      Call.writes_log_pure _ _ _ _ logger] at hrun
    refine hrun.trans ?_
    simp only [← Logger.taken_append, List.append_nil]
    rfl
  · rintro before i after found rfl hfound hfault
    obtain ⟨fault, hlocals⟩ := run_linkLocals_of_not_brings hasked hfound hfault
    rw [Call.run_bind_error hlocals] at hrun
    refine ⟨(ProviderError.requestFailed fault.message).message, hrun.trans ?_⟩
    simp only [← Logger.taken_append, List.append_assoc]
    rfl

set_option maxRecDepth 4000 in
/-- Three of four addresses are absent, null and empty; two of the instances have the same id. Then
an answer for the second instance that is none. -/
theorem find_asks_in_order_sample :
    let page : Reply := .response 200
      "[[[7,\"a\",[],null],[9,\"b\",[],null],[7,\"c\",[],null],[8,\"d\",[],null]],1,1]"
    let world (later : List Reply) : World := { World.offline [] with web := page :: later }
    let c : Config := .ofList [("provider", "linode"), ("api_token", "t"),
      ("address_type", "private_v6")]
    let run (later : List Reply) := (find "http://[::1]:8080" none (world later) c).run .everything
    let absent : Reply := .response 200 "\x7b\"ipv6\":\x7b\x7d\x7d"
    let start := opening .privateV6 "" ""
    (∃ (events : List Event) (request : UInt64 → Http.Request),
      run [absent, .response 200 "[[null]]", .response 200 "[[[\"\"]]]",
        .response 200 "[[[\"fe80::1\"]]]"] = ⟨.ok ["fe80::1"], [start,
        ⟨.info, target, "Found instance d (8) with private_v6 IP: fe80::1"⟩, closing ["fe80::1"]],
        events ++ ([7, 9, 7, 8].map fun id => .web (request id))⟩) ∧
    ∃ (events : List Event) (request : UInt64 → Http.Request) (reason : String),
      run [absent, .response 500 ""] =
      ⟨.error (.requestFailed ("Fetching Linode IP address for instance 9 failed: " ++ reason)),
        [start], events ++ [.web (request 7), .web (request 9)]⟩ := by
  intro page world c run absent start
  let listed : List Instance :=
    [⟨7, "a", [], none⟩, ⟨9, "b", [], none⟩, ⟨7, "c", [], none⟩, ⟨8, "d", [], none⟩]
  let client : Http.Client := ⟨"http://[::1]:8080", none, "t"⟩
  have hemploys (later : List Reply) :
      c.Employs (world later).env providerName "LINODE_TOKEN" client :=
    ⟨by decide, rfl, rfl⟩
  have hkind : c.parsed "address_type" AddressKind.read default = .ok .privateV6 := by decide
  let answered : List Reply := [absent, .response 200 "[[null]]", .response 200 "[[[\"\"]]]",
    .response 200 "[[[\"fe80::1\"]]]"]
  let failed : List Reply := [absent, .response 500 ""]
  have hlisted : ∀ later ∈ [answered, failed], ((instances client
      (instanceFilter (c.getD "region") (c.getD "tag_name")) (world later).web).run
        .everything).result = .ok (listed, later) := by
    decide +kernel
  have habsent : absent.Brings ipsOfJson? none := Reply.brings_of_read (by decide +kernel)
  constructor
  · obtain ⟨request, -, hfound, -⟩ :=
      (find_asks_in_order (hemploys _) hkind .everything).2.2 listed answered rfl
        (hlisted _ (List.mem_cons_self ..))
    exact ⟨_, request, hfound [none, none, some "", some "fe80::1"]
      (.cons habsent (.cons (Reply.brings_of_read (by decide +kernel)) (.cons
        (Reply.brings_of_read (by decide +kernel))
        (.cons (Reply.brings_of_read (by decide +kernel)) .nil))))⟩
  · obtain ⟨request, -, -, hfault⟩ := (find_asks_in_order (hemploys _) hkind .everything).2.2
      listed failed rfl (hlisted _ (by simp))
    have hnone (address : Option String) :
        ¬ (Reply.response 500 "").Brings ipsOfJson? address := by
      rintro ⟨_, _, hreply, -, hserver, -⟩
      cases hreply
      cases hserver
    obtain ⟨reason, hrun⟩ := hfault [⟨7, "a", [], none⟩] ⟨9, "b", [], none⟩ _ [none] rfl
      (.cons habsent .nil) hnone
    rw [List.append_assoc] at hrun
    exact ⟨_, request, reason, hrun⟩

end Listed

end Linode
end NodeDiscovery
