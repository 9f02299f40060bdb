import NodeDiscovery.Proofs.Search

/-! The shape of the searches of web services. -/
namespace NodeDiscovery

namespace Config
variable {c : Config} {env : Environment} {name variable_ : String} {client : Http.Client}

/-- The configuration asks for the provider of that name and gives the client its token, and the
user agent of the client can be sent. -/
structure Employs (c : Config) (env : Environment) (name variable_ : String)
    (client : Http.Client) : Prop where
  provider : c.provider = some name
  token : c.apiToken env variable_ = .ok client.token
  userAgent : client.userAgent.all Http.isHeaderText = true

theorem Employs.connect (h : c.Employs env name variable_ client) :
    client.connect = .ok client := by
  rw [Http.Client.connect, if_pos h.userAgent]

end Config

theorem Http.Client.connect_of_not_sendable {client : Client}
    (h : ¬ client.userAgent.all isHeaderText = true) :
    client.connect = .error .malformedHeader := by
  rw [Client.connect, if_neg h]

theorem Http.Client.refuses_connect {α : Type} {client : Client}
    (h : ¬ client.userAgent.all isHeaderText = true) (f : Client → Call Fault α) :
    (Call.ofExcept client.connect >>= f).Refuses := by
  rw [connect_of_not_sendable h]
  exact (Call.refuses_ofExcept _).bind f

/-- The search of a web service. The options and a token settle what to ask for, and who asks; one
who cannot be set up as a client asks for nothing. -/
structure WebSearch where
  name : String
  tokenVariable : String
  target : String
  Options : Type
  Found : Type
  options : Config → Call ProviderError Options
  /-- What is told before anything is asked. -/
  opening : Options → String
  ask : Http.Client → Options → List Http.Reply → Call ProviderError Found
  tell : Http.Client → Options → Found → Call ProviderError (List String)
  plain_options : ∀ c, (options c).Plain
  silent_ask : ∀ client options replies, (ask client options replies).Silent
  accepts_ask : ∀ client options replies, (ask client options replies).Accepts
  refuses_ask : ∀ client options replies, ¬ client.userAgent.all Http.isHeaderText = true →
    (ask client options replies).Refuses
  transparent_tell : ∀ client options found, (tell client options found).Transparent
  accepts_tell : ∀ client options found, (tell client options found).Accepts

namespace WebSearch
variable {w : WebSearch} {baseUrl token : String} {userAgent : Option String}
  {env env' : Environment} {c c' : Config}

def settle (w : WebSearch) (baseUrl : String) (userAgent : Option String) (env : Environment)
    (c : Config) : Call ProviderError (Http.Client × w.Options) := do
  let options ← w.options c
  let token ← Call.ofExcept (c.apiToken env w.tokenVariable)
  Call.log .debug w.target (w.opening options)
  return (⟨baseUrl, userAgent, token⟩, options)

def toSearch (w : WebSearch) (baseUrl : String) (userAgent : Option String) : Search where
  name := w.name
  Plan := Http.Client × w.Options
  Found := w.Found
  settle := w.settle baseUrl userAgent
  ask world plan := w.ask plan.1 plan.2 world.web
  tell plan := w.tell plan.1 plan.2
  plain_settle _ c := (w.plain_options c).bind fun _ => (Call.plain_ofExcept _).bind fun _ =>
    (Call.writes_log_pure _ _ _ _).plain
  silent_ask world plan := w.silent_ask plan.1 plan.2 world.web
  accepts_ask world plan := w.accepts_ask plan.1 plan.2 world.web
  transparent_tell plan := w.transparent_tell plan.1 plan.2
  accepts_tell plan := w.accepts_tell plan.1 plan.2

theorem quiet_settle {options : w.Options} (hoptions : (w.options c).Quiet options)
    (htoken : c.apiToken env w.tokenVariable = .ok token) :
    (w.settle baseUrl userAgent env c).Quiet (⟨baseUrl, userAgent, token⟩, options) := by
  rw [settle, htoken]
  exact hoptions.bind ((Call.quiet_ofExcept token).bind (Call.writes_log_pure _ _ _ _).quiet)

theorem of_quiet_settle {plan : Http.Client × w.Options}
    (h : (w.settle baseUrl userAgent env c).Quiet plan) :
    ∃ token, c.apiToken env w.tokenVariable = .ok token ∧ plan.1 = ⟨baseUrl, userAgent, token⟩ ∧
      (w.options c).Quiet plan.2 := by
  have hresult : ((w.settle baseUrl userAgent env c).run .discard).result = .ok plan :=
    congrArg Prod.fst (h .discard)
  obtain ⟨options, hoptions, hresult⟩ := Call.run_bind_eq_ok hresult
  obtain ⟨token, htoken, hresult⟩ := Call.run_bind_eq_ok hresult
  obtain rfl := Except.ok.inj hresult
  exact ⟨token, htoken, rfl, (w.plain_options c).quiet_of_ok hoptions⟩

theorem settle_of_token (h : c.apiToken env w.tokenVariable = .ok token) :
    w.settle baseUrl userAgent env c =
      (fun options => (⟨baseUrl, userAgent, token⟩, options)) <$> (do
        let options ← w.options c
        Call.log .debug w.target (w.opening options)
        return options) := by
  have hok : (Call.ofExcept (.ok token) : Call ProviderError String) = pure token := rfl
  simp only [settle, h, hok, pure_bind, map_eq_pure_bind, bind_assoc]

theorem settle_congr (hoptions : w.options c' = w.options c)
    (htoken : c'.apiToken env' w.tokenVariable = c.apiToken env w.tokenVariable) :
    w.settle baseUrl userAgent env' c' = w.settle baseUrl userAgent env c := by
  rw [settle, settle, hoptions, htoken]

theorem find_of_employs {client : Http.Client} {world : World}
    (h : c.Employs world.env w.name w.tokenVariable client) :
    (w.toSearch client.baseUrl client.userAgent).find world c = (do
      let options ← w.options c
      Call.log .debug w.target (w.opening options)
      let found ← w.ask client options world.web
      w.tell client options found) := by
  rw [Search.find_of_provider h.provider]
  simp only [toSearch, settle_of_token h.token, map_eq_pure_bind, bind_assoc, pure_bind]

theorem outcome_find {client : Http.Client} {world : World}
    (h : c.Employs world.env w.name w.tokenVariable client) {options : w.Options}
    (hoptions : (w.options c).Quiet options) (logger : Logger) :
    ((w.toSearch client.baseUrl client.userAgent).find world c).outcome logger =
      (w.ask client options world.web >>= w.tell client options).outcome logger :=
  Search.outcome_find (s := w.toSearch client.baseUrl client.userAgent) h.provider
    (quiet_settle hoptions h.token) logger

/-- A search either fails before anything is asked, or it has a client with a token and all that it
needs for its first question. -/
theorem refuses_or_employs (w : WebSearch) (baseUrl : String) (userAgent : Option String)
    (world : World) (c : Config) :
    ((w.toSearch baseUrl userAgent).find world c).Refuses ∨ ∃ token options,
      c.Employs world.env w.name w.tokenVariable ⟨baseUrl, userAgent, token⟩ ∧
        (w.options c).Quiet options := by
  obtain hrefuses | ⟨hprovider, plan, hplan⟩ :=
    (w.toSearch baseUrl userAgent).refuses_or_settles world c
  · exact .inl hrefuses
  obtain ⟨token, htoken, hclient, hoptions⟩ := of_quiet_settle hplan
  by_cases hagent : userAgent.all Http.isHeaderText = true
  · exact .inr ⟨token, plan.2, ⟨hprovider, htoken, hagent⟩, hoptions⟩
  · left
    have hask : (w.ask plan.1 plan.2 world.web).Refuses := by
      refine w.refuses_ask _ _ _ ?_
      rwa [hclient]
    obtain ⟨e, he⟩ := hask.bind (w.tell plan.1 plan.2)
    exact ⟨e, fun logger => (Search.outcome_find hprovider hplan logger).trans (he logger)⟩

end WebSearch
end NodeDiscovery
