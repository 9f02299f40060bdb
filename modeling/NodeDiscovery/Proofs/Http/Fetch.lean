import NodeDiscovery.Http.Fetch
import NodeDiscovery.Proofs.Http.Form
import Mathlib.Tactic.ByContra

/-! Requests to an endpoint that can be asked, and replies that bring a document. -/
namespace NodeDiscovery.Http
variable {α : Type} {read : Json → Option α}

/-- The reply is a response that tells of no error, and its document is read as `a`. -/
def Reply.Brings (read : Json → Option α) (reply : Reply) (a : α) : Prop :=
  ∃ status body, reply = .response status body ∧ Status.isClientError status = false ∧
    Status.isServerError status = false ∧ Status.hasBody status = true ∧
    (Json.parse? body).bind read = some a

theorem Reply.brings_of_read {body : String} {a : α} (h : (Json.parse? body).bind read = some a) :
    (Reply.response 200 body).Brings read a :=
  ⟨200, body, rfl, rfl, rfl, rfl, h⟩

theorem Reply.Brings.unique {reply : Reply} {a b : α} (h : reply.Brings read a)
    (h' : reply.Brings read b) : a = b := by
  obtain ⟨status, body, rfl, -, -, -, hread⟩ := h
  obtain ⟨_, _, hreply, -, -, -, hread'⟩ := h'
  cases hreply
  exact Option.some.inj (hread.symm.trans hread')

theorem run_fetch {reply : Reply} {a : α} (h : reply.Brings read a) (request : Request)
    (logger : Logger) :
    (fetch read (.ok request) reply).run logger = ⟨.ok a, [], [.web request]⟩ := by
  obtain ⟨status, body, rfl, hclient, hserver, hbody, hread⟩ := h
  have hok : (Reply.response status body).body request.url.text = .ok body := by
    simp [Reply.body, hclient, hserver, hbody]
  unfold fetch
  rw [Call.run_bind_ok (Call.run_ofExcept _ _)]
  simp [Reply.isReceived, Call.run_bind, hok, hread]

/-- How asking for a document goes: the request cannot be built or nobody gets it, or it is all that
happens, and fails or is answered with a document. -/
theorem run_fetch_cases (read : Json → Option α) (request : Except Fault Request) (reply : Reply)
    (logger : Logger) :
    (((∃ fault, request = .error fault) ∨ reply = .unreachable) ∧
        ∃ fault, (fetch read request reply).run logger = ⟨.error fault, [], []⟩) ∨
      ∃ sent, request = .ok sent ∧
        ((∃ fault, (fetch read request reply).run logger = ⟨.error fault, [], [.web sent]⟩) ∨
          ∃ a, reply.Brings read a ∧
            (fetch read request reply).run logger = ⟨.ok a, [], [.web sent]⟩) := by
  cases request with
  | error fault => exact .inl ⟨.inl ⟨fault, rfl⟩, fault, rfl⟩
  | ok sent =>
    cases reply with
    | unreachable => exact .inl ⟨.inr rfl, .lost sent.url.text, rfl⟩
    | closed => exact .inr ⟨sent, rfl, .inl ⟨.lost sent.url.text, rfl⟩⟩
    | response status body =>
      refine .inr ⟨sent, rfl, ?_⟩
      by_cases herror : (Status.isClientError status || Status.isServerError status) = true
      · refine .inl ⟨.status status sent.url.text, ?_⟩
        simp [fetch, Call.run_bind, Reply.isReceived, Reply.body, herror]
      · have hbody : (Reply.response status body).body sent.url.text =
            .ok (if Status.hasBody status then body else "") := by rw [Reply.body, if_neg herror]
        cases hread : (Json.parse? (if Status.hasBody status then body else "")).bind read with
        | none =>
          refine .inl ⟨.undecodable, ?_⟩
          simp [fetch, Call.run_bind, Reply.isReceived, hbody, hread]
        | some a =>
          have hhas : Status.hasBody status = true := by
            by_contra hnone
            have hempty : Json.parse? "" = none := by decide +kernel
            rw [if_neg hnone, hempty] at hread
            cases hread
          simp only [Bool.not_eq_true, Bool.or_eq_false_iff] at herror
          rw [if_pos hhas] at hread
          have hbrings : (Reply.response status body).Brings read a :=
            ⟨status, body, rfl, herror.1, herror.2, hhas, hread⟩
          exact .inr ⟨a, hbrings, run_fetch hbrings sent logger⟩

theorem Url.sendable_eq_ok_iff {u : Url} :
    u.sendable = .ok u ↔ (u.scheme = "http".toList ∨ u.scheme = "https".toList) ∧
      ∀ c ∈ u.authority.getD [], c ∉ ['\"', '`', '\x7b', '\x7d'] := by
  unfold Url.sendable
  constructor
  · intro h
    split at h
    · cases h
    · next hscheme =>
      split at h
      · cases h
      · next hauthority =>
        simp only [Bool.and_eq_true, decide_eq_true_eq, not_and_or, not_not] at hscheme
        simp only [List.any_eq_true, decide_eq_true_eq, not_exists, not_and] at hauthority
        exact ⟨hscheme, hauthority⟩
  · rintro ⟨hscheme, hauthority⟩
    rw [if_neg, if_neg]
    · simpa only [List.any_eq_true, decide_eq_true_eq, not_exists, not_and] using hauthority
    · simpa only [Bool.and_eq_true, decide_eq_true_eq, not_and_or, not_not] using hscheme

theorem Url.sendable_eq {u v : Url} (h : u.sendable = .ok v) : v = u := by
  unfold Url.sendable at h
  split at h
  · cases h
  · split at h
    · cases h
    · cases h
      rfl

/-- Whether an address can be asked for does not depend on its query. -/
theorem Url.sendable_addQuery (u : Url) (pairs : List (String × String)) :
    (u.addQuery pairs).sendable = .ok (u.addQuery pairs) ↔ u.sendable = .ok u := by
  rw [Url.sendable_eq_ok_iff, Url.sendable_eq_ok_iff]
  rfl

/-- A request is the address with its query, and the headers of the client. It is built if the
address names a host on the web and the headers can be sent. -/
theorem Client.request_eq_ok_iff {client : Client} {path : String}
    {query : List (String × String)} {filter : Option String} {request : Request} :
    client.request path query filter = .ok request ↔
      ∃ endpoint, Url.parse (client.baseUrl ++ path) = .ok endpoint ∧ endpoint.hasHost = true ∧
        endpoint.sendable = .ok endpoint ∧ filter.all isHeaderText = true ∧
        isHeaderText client.token = true ∧
        request = ⟨if query.isEmpty then endpoint else endpoint.addQuery query,
          "Bearer " ++ client.token, client.userAgent, filter⟩ := by
  unfold Client.request
  cases hparsed : Url.parse (client.baseUrl ++ path) with
  | error fault => simp [Except.mapError, bind, Except.bind]
  | ok u =>
    simp only [Except.mapError, bind, Except.bind, Except.ok.injEq, exists_eq_left']
    have hsendable : (if query.isEmpty then u else u.addQuery query).sendable =
        .ok (if query.isEmpty then u else u.addQuery query) ↔ u.sendable = .ok u := by
      cases query.isEmpty
      · exact Url.sendable_addQuery u query
      · rfl
    generalize (if query.isEmpty then u else u.addQuery query) = full at hsendable
    rw [← hsendable]
    by_cases hhost : u.hasHost = true
    · by_cases hheaders : filter.all isHeaderText = true ∧ isHeaderText client.token = true
      · cases hfull : full.sendable with
        | error fault => simp [hhost, hheaders]
        | ok v =>
          obtain rfl := Url.sendable_eq hfull
          simp [hhost, hheaders, pure, Except.pure, eq_comm]
      · have hbad : (!filter.all isHeaderText || !isHeaderText client.token) = true := by
          rwa [← Bool.not_and, Bool.not_eq_true', ← Bool.not_eq_true, Bool.and_eq_true]
        constructor
        · intro h
          simp [hhost, hbad, throw, throwThe, MonadExceptOf.throw] at h
        · rintro ⟨-, -, hfilter, htoken, -⟩
          exact absurd ⟨hfilter, htoken⟩ hheaders
    · simp [hhost, throw, throwThe, MonadExceptOf.throw]

theorem Client.suffix_of_request {client : Client} {path : String} {pairs : List (String × String)}
    {filter : Option String} {request : Request} (hpairs : pairs ≠ [])
    (h : client.request path pairs filter = .ok request) :
    pairs <:+ Form.decode (request.url.query.getD []) := by
  have hne : pairs.isEmpty = false := by simpa using hpairs
  obtain ⟨endpoint, -, -, -, -, -, rfl⟩ := Client.request_eq_ok_iff.mp h
  rw [hne, if_neg Bool.false_ne_true, Url.decode_addQuery]
  exact List.suffix_append _ _

/-- Requests of the client for a path get to an endpoint: there is one, on the web, and the headers
of the client can be sent. -/
structure Client.Reaches (client : Client) (path : String) (endpoint : Url) : Prop where
  parsed : Url.parse (client.baseUrl ++ path) = .ok endpoint
  hasHost : endpoint.hasHost = true
  sendable : endpoint.sendable = .ok endpoint
  token : isHeaderText client.token = true
  userAgent : client.userAgent.all isHeaderText = true

namespace Client.Reaches
variable {client : Client} {path : String} {endpoint : Url}

theorem connect (h : client.Reaches path endpoint) : client.connect = .ok client := by
  rw [Client.connect, if_pos h.userAgent]

theorem request_eq (h : client.Reaches path endpoint) {query : List (String × String)}
    (hquery : query ≠ []) {filter : Option String} (hfilter : filter.all isHeaderText = true) :
    client.request path query filter =
      .ok ⟨endpoint.addQuery query, "Bearer " ++ client.token, client.userAgent, filter⟩ := by
  have hne : query.isEmpty = false := by simpa using hquery
  refine Client.request_eq_ok_iff.mpr
    ⟨endpoint, h.parsed, h.hasHost, h.sendable, hfilter, h.token, ?_⟩
  rw [hne, if_neg Bool.false_ne_true]

end Client.Reaches

/-- The request is for an endpoint, with pairs that come after those the endpoint may have. -/
def Request.Asks (endpoint : Url) (pairs : List (String × String)) (request : Request) : Prop :=
  { request.url with query := endpoint.query } = endpoint ∧
    Form.decode (request.url.query.getD []) = Form.decode (endpoint.query.getD []) ++ pairs

theorem Client.Reaches.exists_request {client : Client} {path : String} {endpoint : Url}
    (h : client.Reaches path endpoint) {pairs : List (String × String)} (hpairs : pairs ≠ []) :
    ∃ request, client.request path pairs none = .ok request ∧ request.Asks endpoint pairs :=
  ⟨_, h.request_eq hpairs rfl, rfl, Url.decode_addQuery endpoint pairs⟩

end NodeDiscovery.Http
