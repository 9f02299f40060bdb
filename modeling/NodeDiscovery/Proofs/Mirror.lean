import NodeDiscovery.Proofs.Http.Search
import NodeDiscovery.Proofs.Http.Service

/-! Mirrors: two calls that end and log alike, and of which one does what the other does but for a
change to each event. Calls are compared part by part; two that read configurations apart in one
option, or have clients with different tokens, mirror each other if their parts do. -/
namespace NodeDiscovery

namespace Call
variable {ε ε' α β : Type}

/-- The second call ends and logs as the first one does, and what it does is what the first one does
under `f`. -/
def Mirrors (f : Event → Event) (x y : Call ε α) : Prop :=
  ∀ logger, y.run logger =
    ⟨(x.run logger).result, (x.run logger).log, (x.run logger).events.map f⟩

section Mirrors
variable {f : Event → Event}

theorem mirrors_ofExcept (r : Except ε α) : Mirrors f (ofExcept r) (ofExcept r) := fun _ => rfl

theorem Quiet.mirrors {x : Call ε α} {a : α} (h : x.Quiet a) : Mirrors f x x := by
  intro logger
  have hevents : (x.run logger).events = [] := congrArg Prod.snd (h logger)
  rw [hevents, List.map_nil, ← hevents]

theorem Plain.mirrors {x : Call ε α} (h : x.Plain) : Mirrors f x x := by
  obtain ⟨result, told, hrun⟩ := h
  intro logger
  rw [hrun logger]
  rfl

theorem Mirrors.bind {x y : Call ε α} {g h : α → Call ε β} (hxy : Mirrors f x y)
    (hgh : ∀ a, Mirrors f (g a) (h a)) : Mirrors f (x >>= g) (y >>= h) := by
  intro logger
  rw [run_bind, run_bind, hxy logger]
  cases (x.run logger).result with
  | error e => rfl
  | ok a =>
    simp only
    rw [hgh a logger, List.map_append]

theorem Mirrors.ofExcept_bind {a a' : α} {g h : α → Call ε β} (hgh : Mirrors f (g a) (h a')) :
    Mirrors f (ofExcept (.ok a) >>= g) (ofExcept (.ok a') >>= h) := by
  intro logger
  rw [run_bind_ok (run_ofExcept _ _), run_bind_ok (run_ofExcept _ _), hgh logger]
  rfl

theorem Mirrors.mapError {x y : Call ε α} (h : Mirrors f x y) (tell : ε → ε') :
    Mirrors f (x.mapError tell) (y.mapError tell) := by
  intro logger
  rw [run_mapError, run_mapError, h logger]

end Mirrors

end Call

open Call (Mirrors)

namespace Event

def mapWeb (g : Http.Request → Http.Request) : Event → Event
  | .web request => .web (g request)
  | event => event

/-- The same event, where a web request has this authorization. -/
def authorize (authorization : String) : Event → Event :=
  mapWeb fun request => { request with authorization }

/-- The same event, where a request to EC2 is signed with this secret key. -/
def sign (secretKey : String) : Event → Event
  | .ec2 request => .ec2 { request with credentials := { request.credentials with secretKey } }
  | event => event

theorem authorize_authorize (authorization former : String) (event : Event) :
    (event.authorize former).authorize authorization = event.authorize authorization := by
  cases event <;> rfl

theorem sign_sign (secretKey former : String) (event : Event) :
    (event.sign former).sign secretKey = event.sign secretKey := by
  cases event <;> rfl

theorem mapWeb_id : mapWeb id = id := by
  funext event
  cases event <;> rfl

end Event

theorem Call.Mirrors.eq {ε α : Type} {x y : Call ε α} (h : Mirrors (Event.mapWeb id) x y) :
    y = x := by
  refine Call.ext fun logger => ?_
  rw [h logger, Event.mapWeb_id, List.map_id]

namespace Config
variable {c c' : Config} {key : String}

/-- The configurations may differ in one option only. -/
def SameBut (key : String) (c c' : Config) : Prop :=
  ∀ other, other ≠ key → c'.get? other = c.get? other

theorem sameBut_insert (c : Config) (key value : String) : c.SameBut key (c.insert key value) := by
  intro other hother
  rw [Table.get?_insert, if_neg hother]

/-- A missing value counts as empty, so it is enough to know the nonempty ones. -/
theorem getD_congr (h : c'.nonempty? key = c.nonempty? key) : c'.getD key = c.getD key := by
  have hgetD (c : Config) : c.getD key = (c.nonempty? key).getD "" := by
    rw [getD, Config.nonempty?]
    cases c.get? key with
    | none => rfl
    | some value => by_cases hvalue : value = "" <;> simp [hvalue, Option.filter]
  rw [hgetD, hgetD, h]

theorem parsed_congr {α : Type} (h : c'.nonempty? key = c.nonempty? key)
    (read : String → Except String α) (default : α) :
    c'.parsed key read default = c.parsed key read default := by
  rw [parsed, parsed, h]

theorem required_congr (h : c'.nonempty? key = c.nonempty? key) :
    c'.required key = c.required key := by
  rw [required, required, h]

theorem expectProvider_congr (h : c'.provider = c.provider) (name : String) :
    c'.expectProvider name = c.expectProvider name := by
  rw [expectProvider, expectProvider, h]

theorem nonempty?_insert (c : Config) (key : String) {value : String} (hvalue : value ≠ "") :
    Config.nonempty? (c.insert key value) key = some value := by
  rw [Config.nonempty?, Table.get?_insert, if_pos rfl]
  simp [hvalue]

/-- A token in the configuration goes before one in the environment. -/
theorem apiToken_eq_of_nonempty {token : String} (h : c.nonempty? "api_token" = some token)
    (env : Environment) (variable_ : String) : c.apiToken env variable_ = .ok token := by
  rw [apiToken, orVariable, h]
  rfl

theorem apiToken_eq_of_variable {env : Environment} {variable_ token : String}
    (h : c.nonempty? "api_token" = none) (henv : env variable_ = some token)
    (htoken : token ≠ "") : c.apiToken env variable_ = .ok token := by
  have hfilter : (some token).filter (· ≠ "") = some token := by simp [htoken]
  rw [apiToken, orVariable, h, henv, hfilter]
  rfl

namespace SameBut
variable {other : String} {c'' : Config}

theorem symm (h : c.SameBut key c') : c'.SameBut key c := fun other hother => (h other hother).symm

theorem trans (h : c.SameBut key c') (h' : c'.SameBut key c'') : c.SameBut key c'' :=
  fun other hother => (h' other hother).trans (h other hother)

theorem nonempty? (h : c.SameBut key c') (hother : other ≠ key) :
    c'.nonempty? other = c.nonempty? other := by
  rw [Config.nonempty?, Config.nonempty?, h other hother]

theorem getD (h : c.SameBut key c') (hother : other ≠ key) : c'.getD other = c.getD other :=
  getD_congr (h.nonempty? hother)

end SameBut
end Config

section Listing
variable {ρ ε σ π : Type} {f : Event → Event} {l l' : Listing ρ ε σ π}

theorem Listing.mirrors_pages
    (hfetch : ∀ cursor reply, Mirrors f (l.fetch cursor reply) (l'.fetch cursor reply))
    (hnext : l'.next = l.next) (hspent : l'.spent = l.spent) (cursor : σ) (replies : List ρ) :
    Mirrors f (l.pages cursor replies) (l'.pages cursor replies) := by
  induction replies generalizing cursor with
  | nil =>
    rw [pages, pages, hspent]
    exact (hfetch cursor l.spent).bind fun page => Call.mirrors_ofExcept _
  | cons reply later ih =>
    rw [pages, pages, hnext]
    refine (hfetch cursor reply).bind fun page => ?_
    cases l.next cursor page with
    | none => exact Call.mirrors_ofExcept _
    | some cursor' => exact (ih cursor').bind fun found => Call.mirrors_ofExcept _

end Listing

namespace Http
variable {g : Request → Request} {t t' : String}

/-- With another token the same requests are sent, but changed by `g`, which keeps their
addresses. -/
structure Retokens (g : Request → Request) (t t' : String) : Prop where
  request : ∀ baseUrl userAgent path query filter,
    Client.request ⟨baseUrl, userAgent, t'⟩ path query filter =
      (Client.request ⟨baseUrl, userAgent, t⟩ path query filter).map g
  url : ∀ request, (g request).url = request.url

theorem retokens_self (t : String) : Retokens id t t where
  request baseUrl userAgent path query filter := by
    cases Client.request ⟨baseUrl, userAgent, t⟩ path query filter <;> rfl
  url _ := rfl

/-- Tokens that can be sent show in the authorization only. -/
theorem retokens_authorize (ht : isHeaderText t = true) (ht' : isHeaderText t' = true) :
    Retokens (fun request => { request with authorization := "Bearer " ++ t' }) t t' where
  request baseUrl userAgent path query filter := by
    simp only [Client.request, ht, ht']
    -- What is left of the token is the authorization, which no later step looks at.
    cases (Url.parse (baseUrl ++ path)).mapError Fault.malformedUrl with
    | error fault => rfl
    | ok url =>
      simp only [bind, Except.bind]
      split
      · rfl
      · split
        · rfl
        · simp only [pure, Except.pure]
          generalize (Url.sendable _).mapError Fault.malformedUrl = sent
          cases sent <;> rfl
  url _ := rfl

namespace Retokens
variable {α : Type}

theorem mirrors_fetch (h : Retokens g t t') (read : Json → Option α) (baseUrl : String)
    (userAgent : Option String) (path : String) (query : List (String × String))
    (filter : Option String) (reply : Reply) :
    Mirrors (Event.mapWeb g)
      (fetch read (Client.request ⟨baseUrl, userAgent, t⟩ path query filter) reply)
      (fetch read (Client.request ⟨baseUrl, userAgent, t'⟩ path query filter) reply) := by
  rw [h.request]
  cases Client.request ⟨baseUrl, userAgent, t⟩ path query filter with
  | error fault => exact fun _ => rfl
  | ok request =>
    intro logger
    -- The document depends on the reply, and a fault on the address that was asked.
    rw [Except.map, run_fetch_document, run_fetch_document, h.url]
    cases reply.isReceived <;> rfl

theorem mirrors_pages {σ : Type} (h : Retokens g t t')
    (listing : Client → Listing Reply Fault σ α) {read : Json → Option α} {path : String}
    {query : σ → List (String × String)} {filter : Option String}
    (hfetch : ∀ client cursor,
      (listing client).fetch cursor = fetch read (client.request path (query cursor) filter))
    {next : σ → α → Option σ} (hnext : ∀ client, (listing client).next = next)
    {spent : Reply} (hspent : ∀ client, (listing client).spent = spent)
    (baseUrl : String) (userAgent : Option String) (cursor : σ) (replies : List Reply) :
    Mirrors (Event.mapWeb g) ((listing ⟨baseUrl, userAgent, t⟩).pages cursor replies)
      ((listing ⟨baseUrl, userAgent, t'⟩).pages cursor replies) := by
  refine Listing.mirrors_pages (fun cursor reply => ?_) ((hnext _).trans (hnext _).symm)
    ((hspent _).trans (hspent _).symm) cursor replies
  rw [hfetch, hfetch]
  exact h.mirrors_fetch read baseUrl userAgent path (query cursor) filter reply

end Retokens

theorem mirrors_connect {α : Type} {f : Event → Event} (baseUrl : String)
    (userAgent : Option String) {k k' : Client → Call Fault α}
    (hk : Mirrors f (k ⟨baseUrl, userAgent, t⟩) (k' ⟨baseUrl, userAgent, t'⟩)) :
    Mirrors f (Call.ofExcept (Client.connect ⟨baseUrl, userAgent, t⟩) >>= k)
      (Call.ofExcept (Client.connect ⟨baseUrl, userAgent, t'⟩) >>= k') := by
  rw [Client.connect, Client.connect]
  cases userAgent.all isHeaderText with
  | false => exact fun _ => rfl
  | true => exact hk.ofExcept_bind

end Http

/-- Searches whose plans are made from the same, and that go on from these as mirrors do. -/
theorem Search.mirrors_find {s : Search} {f : Event → Event} {world world' : World} {c c' : Config}
    {α : Type} {x : Call ProviderError α} {plan plan' : α → s.Plan} (hx : x.Plain)
    (hprovider : c'.provider = c.provider) (hsettle : s.settle world.env c = plan <$> x)
    (hsettle' : s.settle world'.env c' = plan' <$> x)
    (hsearch : ∀ a, Mirrors f (s.ask world (plan a) >>= s.tell (plan a))
      (s.ask world' (plan' a) >>= s.tell (plan' a))) :
    Mirrors f (s.find world c) (s.find world' c') := by
  rw [find, find, Config.expectProvider_congr hprovider, hsettle, hsettle', bind_map_left,
    bind_map_left]
  exact (Call.mirrors_ofExcept _).bind fun _ => hx.mirrors.bind hsearch

/-- Two searches that find the same replies, for configurations that may differ in their tokens. -/
structure Twins (variable_ t t' : String) (world world' : World) (c c' : Config) : Prop where
  web : world'.web = world.web
  config : c.SameBut "api_token" c'
  token : c.apiToken world.env variable_ = .ok t
  token' : c'.apiToken world'.env variable_ = .ok t'

theorem WebSearch.mirrors_find {w : WebSearch} {f : Event → Event} {t t' : String}
    {world world' : World} {c c' : Config} (h : Twins w.tokenVariable t t' world world' c c')
    (hoptions : w.options c' = w.options c) {baseUrl : String} {userAgent : Option String}
    (hsearch : ∀ options, Mirrors f
      (w.ask ⟨baseUrl, userAgent, t⟩ options world.web >>= w.tell ⟨baseUrl, userAgent, t⟩ options)
      (w.ask ⟨baseUrl, userAgent, t'⟩ options world.web >>=
        w.tell ⟨baseUrl, userAgent, t'⟩ options)) :
    Mirrors f ((w.toSearch baseUrl userAgent).find world c)
      ((w.toSearch baseUrl userAgent).find world' c') := by
  have hplain : (do
      let options ← w.options c
      Call.log .debug w.target (w.opening options)
      return options : Call ProviderError w.Options).Plain :=
    (w.plain_options c).bind fun _ => (Call.writes_log_pure _ _ _ _).plain
  have hsettle' : (w.toSearch baseUrl userAgent).settle world'.env c' =
      (fun options => (⟨baseUrl, userAgent, t'⟩, options)) <$> (do
        let options ← w.options c
        Call.log .debug w.target (w.opening options)
        return options) := by
    rw [← hoptions]
    exact settle_of_token h.token'
  refine Search.mirrors_find hplain (h.config _ (by decide)) (settle_of_token h.token) hsettle'
    fun options => ?_
  simp only [toSearch, h.web]
  exact hsearch options

end NodeDiscovery
