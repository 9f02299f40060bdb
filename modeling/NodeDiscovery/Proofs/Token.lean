import NodeDiscovery.Proofs.Builtin
import NodeDiscovery.Proofs.Mirror
import NodeDiscovery.World.Offline

/-! Secrets: the token for a web service shows in no place but the authorization of its requests,
and the secret key of EC2 in none at all. -/
namespace NodeDiscovery
open Call (Mirrors)

section Options
variable {c c' : Config}

theorem DigitalOcean.tags_congr (hlist : c'.get? "tag_names" = c.get? "tag_names")
    (hsingle : c'.nonempty? "tag_name" = c.nonempty? "tag_name") : tags c' = tags c := by
  rw [tags, tags, hlist, hsingle]

/-- The token is none of the options, and empty ones count as absent but for the list of tags. -/
theorem WebService.options_congr (s : WebService)
    (h : ∀ key, key ≠ "api_token" → c'.nonempty? key = c.nonempty? key)
    (hlist : s = digitalOcean → c'.get? "tag_names" = c.get? "tag_names") :
    s.search.options c' = s.search.options c := by
  cases s with
  | digitalOcean =>
    simp only [search, DigitalOcean.search, DigitalOcean.criteria, h "region" (by decide),
      DigitalOcean.tags_congr (hlist rfl) (h "tag_name" (by decide))]
  | hetzner =>
    have hkind : (Hetzner.addressKind c' : Call ProviderError AddressKind) =
        Hetzner.addressKind c := by
      rw [Hetzner.addressKind, Hetzner.addressKind, h _ (by decide)]
    simp only [search, Hetzner.search, Hetzner.criteria, hkind, h "location" (by decide),
      Config.getD_congr (h "label_selector" (by decide))]
  | linode =>
    simp only [search, Linode.search, Linode.criteria,
      Config.parsed_congr (h "address_type" (by decide)),
      Config.getD_congr (h "region" (by decide)), Config.getD_congr (h "tag_name" (by decide))]
  | vultr =>
    simp only [search, Vultr.search, Vultr.criteriaOf, Config.getD_congr (h "region" (by decide)),
      Config.getD_congr (h "tag_name" (by decide))]

end Options

section Web
variable {g : Http.Request → Http.Request} {t t' : String} (hg : Http.Retokens g t t')
  (baseUrl : String) (userAgent : Option String) (replies : List Http.Reply)
include hg

theorem DigitalOcean.mirrors_droplets (tag : String) : Mirrors (Event.mapWeb g)
    (droplets ⟨baseUrl, userAgent, t⟩ tag replies)
    (droplets ⟨baseUrl, userAgent, t'⟩ tag replies) :=
  Http.mirrors_connect baseUrl userAgent ((hg.mirrors_pages (listing · tag) (fun _ _ => rfl)
    (fun _ => rfl) (fun _ => rfl) baseUrl userAgent 1 replies).bind fun _ =>
      Call.mirrors_ofExcept _)

theorem Hetzner.mirrors_servers (selector : String) : Mirrors (Event.mapWeb g)
    (servers ⟨baseUrl, userAgent, t⟩ selector replies)
    (servers ⟨baseUrl, userAgent, t'⟩ selector replies) :=
  Http.mirrors_connect baseUrl userAgent ((hg.mirrors_pages (listing · selector) (fun _ _ => rfl)
    (fun _ => rfl) (fun _ => rfl) baseUrl userAgent 1 replies).bind fun _ =>
      Call.mirrors_ofExcept _)

theorem Vultr.mirrors_instances (tag : String) : Mirrors (Event.mapWeb g)
    (instances ⟨baseUrl, userAgent, t⟩ tag replies)
    (instances ⟨baseUrl, userAgent, t'⟩ tag replies) :=
  Http.mirrors_connect baseUrl userAgent ((hg.mirrors_pages (listing · tag) (fun _ _ => rfl)
    (fun _ => rfl) (fun _ => rfl) baseUrl userAgent "" replies).bind fun _ =>
      Call.mirrors_ofExcept _)

namespace Linode

theorem mirrors_instances (filter : String) : Mirrors (Event.mapWeb g)
    (instances ⟨baseUrl, userAgent, t⟩ filter replies)
    (instances ⟨baseUrl, userAgent, t'⟩ filter replies) :=
  ((hg.mirrors_pages (listing · filter) (fun _ _ => rfl) (fun _ => rfl) (fun _ => rfl)
    baseUrl userAgent 1 replies).mapError _).bind fun _ => Call.mirrors_ofExcept _

theorem mirrors_linkLocals (listed : List Instance) :
    Mirrors (Event.mapWeb g) (linkLocals ⟨baseUrl, userAgent, t⟩ listed replies)
      (linkLocals ⟨baseUrl, userAgent, t'⟩ listed replies) := by
  induction listed generalizing replies with
  | nil => exact Call.mirrors_ofExcept _
  | cons i rest ih =>
    have hone : Mirrors (Event.mapWeb g)
        (linkLocal ⟨baseUrl, userAgent, t⟩ i.id (replies.headD .notFound))
        (linkLocal ⟨baseUrl, userAgent, t'⟩ i.id (replies.headD .notFound)) :=
      ((hg.mirrors_fetch ipsOfJson? _ _ _ _ _ _).mapError _).bind fun _ =>
        Call.mirrors_ofExcept _
    rw [linkLocals, linkLocals]
    refine hone.bind fun address => (writes_report _ _ _).quiet.mirrors.bind fun found => ?_
    exact (ih replies.tail).bind fun more => Call.mirrors_ofExcept _

theorem mirrors_ask (criteria : Criteria) : Mirrors (Event.mapWeb g)
    (ask ⟨baseUrl, userAgent, t⟩ criteria replies)
    (ask ⟨baseUrl, userAgent, t'⟩ criteria replies) := by
  unfold ask
  rw [Http.Client.connect, Http.Client.connect]
  cases userAgent.all Http.isHeaderText with
  | false => exact fun _ => rfl
  | true =>
    exact Mirrors.ofExcept_bind (mirrors_instances hg baseUrl userAgent replies criteria.filter)

theorem mirrors_tell (criteria : Criteria) (found : List Instance × List Http.Reply) :
    Mirrors (Event.mapWeb g) (tell ⟨baseUrl, userAgent, t⟩ criteria found)
      (tell ⟨baseUrl, userAgent, t'⟩ criteria found) := by
  refine Mirrors.bind ?_ fun _ => (Call.writes_log_pure _ _ _ _).quiet.mirrors
  by_cases hlocal : criteria.kind = .privateV6
  · rw [hlocal]
    exact mirrors_linkLocals hg baseUrl userAgent found.2 found.1
  · have hsame : addressesOf ⟨baseUrl, userAgent, t'⟩ criteria.kind found =
        addressesOf ⟨baseUrl, userAgent, t⟩ criteria.kind found := by
      rw [addressesOf, addressesOf, if_neg hlocal, if_neg hlocal]
    rw [hsame]
    exact (writes_addressesOf _ hlocal found).quiet.mirrors

end Linode

theorem WebService.mirrors_search (s : WebService) (options : s.search.Options) :
    Mirrors (Event.mapWeb g)
      (s.search.ask ⟨baseUrl, userAgent, t⟩ options replies >>=
        s.search.tell ⟨baseUrl, userAgent, t⟩ options)
      (s.search.ask ⟨baseUrl, userAgent, t'⟩ options replies >>=
        s.search.tell ⟨baseUrl, userAgent, t'⟩ options) := by
  cases s with
  | digitalOcean =>
    exact ((DigitalOcean.mirrors_droplets hg baseUrl userAgent replies _).mapError _).bind
      fun found => (DigitalOcean.writes_tell options found).quiet.mirrors
  | hetzner =>
    exact ((Hetzner.mirrors_servers hg baseUrl userAgent replies _).mapError _).bind
      fun found => (Hetzner.writes_tell options found).quiet.mirrors
  | linode =>
    exact (Linode.mirrors_ask hg baseUrl userAgent replies options).bind
      fun found => Linode.mirrors_tell hg baseUrl userAgent options found
  | vultr =>
    exact ((Vultr.mirrors_instances hg baseUrl userAgent replies _).mapError _).bind
      fun found => (Vultr.writes_tell options found).quiet.mirrors

end Web

namespace Ec2
variable {c c' : Config} {world : World}

theorem mirrors_fetch (accessKey secretKey secretKey' : String) (sessionToken : Option String)
    (q : Query) (token : Option String) (reply : Reply) :
    Mirrors (Event.sign secretKey')
      (fetch (some ⟨accessKey, secretKey, sessionToken⟩) q token reply)
      (fetch (some ⟨accessKey, secretKey', sessionToken⟩) q token reply) := by
  -- The secret key only signs, so it does not matter whether it could be sent.
  have hsame : Credentials.isSendable ⟨accessKey, secretKey', sessionToken⟩ =
      Credentials.isSendable ⟨accessKey, secretKey, sessionToken⟩ := rfl
  intro logger
  simp only [fetch, hsame]
  cases Credentials.isSendable ⟨accessKey, secretKey, sessionToken⟩ with
  | false => rfl
  | true => cases reply.isReceived <;> rfl

def credentialOptions : List String := ["access_key_id", "secret_access_key", "session_token"]

theorem query_congr (h : ∀ key ∉ credentialOptions, c'.nonempty? key = c.nonempty? key)
    (env : Environment) : query c' env = query c env := by
  have hkind : addressKind c' = addressKind c := by
    rw [addressKind, addressKind, Config.parsed_congr (h _ (by decide))]
  have hregion : region c' env = region c env := by
    rw [region, region, h _ (by decide)]
  rw [query, query, Config.required_congr (h _ (by decide)),
    Config.required_congr (h _ (by decide)), hkind, hregion, h _ (by decide)]

theorem mirrors_reservations (accessKey secretKey secretKey' : String)
    (sessionToken : Option String) (q : Query) (replies : List Reply) :
    Mirrors (Event.sign secretKey')
      (reservations (some ⟨accessKey, secretKey, sessionToken⟩) q replies)
      (reservations (some ⟨accessKey, secretKey', sessionToken⟩) q replies) := by
  have hfetch (token : Option String) (reply : Reply) : Mirrors (Event.sign secretKey')
      ((listing (some ⟨accessKey, secretKey, sessionToken⟩) q).fetch token reply)
      ((listing (some ⟨accessKey, secretKey', sessionToken⟩) q).fetch token reply) :=
    mirrors_fetch _ _ _ _ _ _ _
  exact (Listing.mirrors_pages hfetch rfl rfl none replies).bind fun _ => Call.mirrors_ofExcept _

theorem settle_of_credentials {accessKey secretKey : String}
    (haccess : c.nonempty? "access_key_id" = some accessKey)
    (hsecret : c.nonempty? "secret_access_key" = some secretKey) (env : Environment) :
    settle env c = (fun q => (q, some ⟨accessKey, secretKey, c.nonempty? "session_token"⟩)) <$> (do
      let q ← query c env
      Call.log .info target s!"Filter instances with {q.tagKey}={q.tagValue}"
      Call.log .debug target "Static credentials provided"
      Call.log .debug target <| "Using region=" ++ q.region.name ++ " tag_key=" ++ q.tagKey ++
        " tag_value=" ++ q.tagValue ++ " addr_type=" ++ q.kind.name
      return q) := by
  simp only [settle, credentials, haccess, hsecret, map_eq_pure_bind, bind_assoc, pure_bind]

theorem mirrors_find (h : c.SameBut "secret_access_key" c')
    {accessKey secretKey secretKey' : String}
    (haccess : c.nonempty? "access_key_id" = some accessKey)
    (hsecret : c.nonempty? "secret_access_key" = some secretKey)
    (hsecret' : c'.nonempty? "secret_access_key" = some secretKey') (userAgent : Option String) :
    Mirrors (Event.sign secretKey') (find userAgent world c) (find userAgent world c') := by
  have haccess' : c'.nonempty? "access_key_id" = some accessKey :=
    (h.nonempty? (by decide)).trans haccess
  have hsettle' := settle_of_credentials haccess' hsecret' world.env
  rw [h.nonempty? (by decide), query_congr fun key hkey =>
    h.nonempty? (ne_of_mem_of_not_mem (by decide) hkey).symm] at hsettle'
  rw [find_eq, find_eq]
  refine Search.mirrors_find ?_ (h _ (by decide)) (settle_of_credentials haccess hsecret world.env)
    hsettle' fun q => ?_
  · exact (plain_query c world.env).bind fun _ => (Call.writes_log _ _ _).plain.bind fun _ =>
      (Call.writes_log _ _ _).plain.bind fun _ => (Call.writes_log_pure _ _ _ _).plain
  · exact ((mirrors_reservations accessKey secretKey secretKey' _ q world.ec2).mapError _).bind
      fun found => (writes_tell q.kind found).quiet.mirrors

end Ec2

namespace WebService

theorem mirrors_find (s : WebService) {g : Http.Request → Http.Request} {t t' : String}
    {world world' : World} {c c' : Config} (h : Twins s.tokenVariable t t' world world' c c')
    (hg : Http.Retokens g t t') (baseUrl : String) (userAgent : Option String) :
    Mirrors (Event.mapWeb g) (s.find baseUrl userAgent world c)
      (s.find baseUrl userAgent world' c') := by
  rw [find_eq, find_eq]
  have hoptions : s.search.options c' = s.search.options c :=
    s.options_congr (fun key hkey => h.config.nonempty? hkey) fun _ => h.config _ (by decide)
  rw [← tokenVariable_search] at h
  exact WebSearch.mirrors_find h hoptions fun options =>
    s.mirrors_search hg baseUrl userAgent world.web options

variable (s : WebService) (baseUrl : String) (userAgent : Option String) {world : World}
  {c : Config} {t t' : String}

theorem mirrors_insert (ht : t ≠ "") (ht' : t' ≠ "") (hsent : Http.isHeaderText t = true)
    (hsent' : Http.isHeaderText t' = true) :
    Mirrors (Event.authorize ("Bearer " ++ t'))
      (s.find baseUrl userAgent world (c.insert "api_token" t))
      (s.find baseUrl userAgent world (c.insert "api_token" t')) := by
  have htwins : Twins s.tokenVariable t t' world world (c.insert "api_token" t)
      (c.insert "api_token" t') := {
    web := rfl
    config := (c.sameBut_insert "api_token" t).symm.trans (c.sameBut_insert "api_token" t')
    token := Config.apiToken_eq_of_nonempty (c.nonempty?_insert _ ht) _ _
    token' := Config.apiToken_eq_of_nonempty (c.nonempty?_insert _ ht') _ _ }
  exact s.mirrors_find htwins (Http.retokens_authorize hsent hsent') baseUrl userAgent

theorem find_eq_find_insert (ht : t ≠ "") (hnone : c.nonempty? "api_token" = none)
    (hvariable : world.env s.tokenVariable = some t) :
    s.find baseUrl userAgent world c =
      s.find baseUrl userAgent world (c.insert "api_token" t) := by
  have htwins : Twins s.tokenVariable t t world world c (c.insert "api_token" t) := {
    web := rfl
    config := c.sameBut_insert "api_token" t
    token := Config.apiToken_eq_of_variable hnone hvariable ht
    token' := Config.apiToken_eq_of_nonempty (c.nonempty?_insert _ ht) _ _ }
  exact (s.mirrors_find htwins (Http.retokens_self t) baseUrl userAgent).eq.symm

theorem find_env_congr (h : c.nonempty? "api_token" = some t) (env : Environment) :
    s.find baseUrl userAgent { world with env := env } c = s.find baseUrl userAgent world c := by
  have htwins : Twins s.tokenVariable t t world { world with env := env } c c := {
    web := rfl
    config := fun _ _ => rfl
    token := Config.apiToken_eq_of_nonempty h _ _
    token' := Config.apiToken_eq_of_nonempty h _ _ }
  exact (s.mirrors_find htwins (Http.retokens_self t) baseUrl userAgent).eq

end WebService

/-- Secrets have no influence but where they belong.

A search with another token ends the same way and logs the same records, and its requests differ in
nothing but the authorization, which is made of the token. A token from the environment does what
the same token in the configuration does, and a token in the configuration makes the environment
irrelevant. A search with another secret key ends the same way, logs the same and sends the same but
for the key itself. -/
theorem secrets_only_authorize (baseUrl : String) (userAgent : Option String) (world : World)
    (c : Config) (logger : Logger) :
    (∀ (s : WebService) (t t' : String), t ≠ "" → t' ≠ "" →
      Http.isHeaderText t = true → Http.isHeaderText t' = true →
      let run := (s.find baseUrl userAgent world (c.insert "api_token" t)).run logger
      let run' := (s.find baseUrl userAgent world (c.insert "api_token" t')).run logger
      run'.result = run.result ∧ run'.log = run.log ∧
        run'.events.map (Event.authorize "") = run.events.map (Event.authorize "") ∧
        ∀ request, .web request ∈ run.events → request.authorization = "Bearer " ++ t) ∧
    (∀ (s : WebService) (t : String), t ≠ "" → c.nonempty? "api_token" = none →
      world.env s.tokenVariable = some t →
      s.find baseUrl userAgent world c =
        s.find baseUrl userAgent world (c.insert "api_token" t)) ∧
    (∀ (s : WebService) (t : String) (env : Environment), c.nonempty? "api_token" = some t →
      s.find baseUrl userAgent { world with env := env } c =
        s.find baseUrl userAgent world c) ∧
    ∀ accessKey secretKey secretKey' : String, c.nonempty? "access_key_id" = some accessKey →
      secretKey ≠ "" → secretKey' ≠ "" →
      let run := (Ec2.find userAgent world (c.insert "secret_access_key" secretKey)).run logger
      let run' := (Ec2.find userAgent world (c.insert "secret_access_key" secretKey')).run logger
      run'.result = run.result ∧ run'.log = run.log ∧
        run'.events.map (Event.sign "") = run.events.map (Event.sign "") := by
  refine ⟨?_, ?_, ?_, ?_⟩
  · intro s t t' ht ht' hsent hsent' run run'
    have hother : run' = ⟨run.result, run.log,
        run.events.map (Event.authorize ("Bearer " ++ t'))⟩ :=
      s.mirrors_insert baseUrl userAgent ht ht' hsent hsent' logger
    have hsame : run = ⟨run.result, run.log,
        run.events.map (Event.authorize ("Bearer " ++ t))⟩ :=
      s.mirrors_insert baseUrl userAgent ht ht hsent hsent logger
    have hevents : run.events = run.events.map (Event.authorize ("Bearer " ++ t)) :=
      congrArg Trace.events hsame
    rw [hother]
    refine ⟨rfl, rfl, ?_, ?_⟩
    · rw [List.map_map]
      exact List.map_congr_left fun event _ => Event.authorize_authorize _ _ event
    · intro request hrequest
      rw [hevents] at hrequest
      obtain ⟨event, -, hevent⟩ := List.mem_map.mp hrequest
      cases event with
      | web former =>
        obtain rfl := Event.web.inj hevent
        rfl
      | _ => cases hevent
  · intro s t ht hnone hvariable
    exact s.find_eq_find_insert baseUrl userAgent ht hnone hvariable
  · intro s t env h
    exact s.find_env_congr baseUrl userAgent h env
  · intro accessKey secretKey secretKey' haccess hsecret hsecret' run run'
    have hsame := c.sameBut_insert "secret_access_key" secretKey
    have hother : run' = ⟨run.result, run.log, run.events.map (Event.sign secretKey')⟩ :=
      Ec2.mirrors_find (hsame.symm.trans (c.sameBut_insert "secret_access_key" secretKey'))
        ((hsame.nonempty? (by decide)).trans haccess) (c.nonempty?_insert _ hsecret)
        (c.nonempty?_insert _ hsecret') userAgent logger
    rw [hother]
    refine ⟨rfl, rfl, ?_⟩
    rw [List.map_map]
    exact List.map_congr_left fun event _ => Event.sign_sign _ _ event

set_option maxRecDepth 4000 in
/-- A token in the configuration, another one there, and the first one in the environment; and two
secret keys. Each of the searches gets two pages. -/
theorem secrets_only_authorize_sample :
    let servers (next ip : String) : Http.Reply := .response 200
      ("[[[1,\"a\",[null,null],[[\"" ++ ip ++ "\"]],[[\"fsn1\"]]]],[[" ++ next ++ "]]]")
    let reservations (ip : String) : Option (List Ec2.Reservation) :=
      some [⟨none, some [⟨none, some ip, none, none⟩]⟩]
    let world : World := { World.offline [("HCLOUD_TOKEN", "a")] with
      web := [servers "2" "10.0.0.1", servers "null" "10.0.0.2"]
      ec2 := [.page ⟨reservations "10.0.0.1", some "n"⟩, .page ⟨reservations "10.0.0.2", none⟩] }
    let c : Config := .ofList [("provider", "hcloud")]
    let signed : Config := .ofList [("provider", "aws"), ("tag_key", "k"), ("tag_value", "v"),
      ("access_key_id", "i")]
    let run (env : Environment) (c : Config) := (Hetzner.find "http://[::1]:8080" none
      { world with env := env } c).run .everything
    let first := run world.env (c.insert "api_token" "a")
    let second := run world.env (c.insert "api_token" "b")
    let key (secretKey : String) := (Ec2.find none world
      (signed.insert "secret_access_key" secretKey)).run .everything
    (first.result = .ok ["10.0.0.1", "10.0.0.2"] ∧ first.events.length = 2 ∧
      second.result = first.result ∧ second.log = first.log ∧
      second.events.map (Event.authorize "") = first.events.map (Event.authorize "") ∧
      ∀ request, .web request ∈ first.events → request.authorization = "Bearer " ++ "a") ∧
    run world.env c = first ∧
    run (fun _ => none) (c.insert "api_token" "a") = first ∧
    (key "s").result = .ok ["10.0.0.1", "10.0.0.2"] ∧ (key "s").events.length = 2 ∧
      (key "t").result = (key "s").result ∧ (key "t").log = (key "s").log ∧
      (key "t").events.map (Event.sign "") = (key "s").events.map (Event.sign "") := by
  intro servers reservations world c signed run first second key
  obtain ⟨htoken, hvariable, -, -⟩ :=
    secrets_only_authorize "http://[::1]:8080" none world c .everything
  obtain ⟨-, -, henv, -⟩ := secrets_only_authorize "http://[::1]:8080" none world
    (c.insert "api_token" "a") .everything
  obtain ⟨-, -, -, hkey⟩ := secrets_only_authorize "" none world signed .everything
  refine ⟨⟨by decide +kernel, by decide +kernel,
      htoken .hetzner "a" "b" (by decide) (by decide) (by decide) (by decide)⟩, ?_, ?_,
    by decide +kernel, by decide +kernel,
    hkey "i" "s" "t" (by decide) (by decide) (by decide)⟩
  · exact congrArg (Call.run · .everything)
      (hvariable .hetzner "a" (by decide) (by decide) (by decide))
  · exact congrArg (Call.run · .everything)
      (henv .hetzner "a" (fun _ => none) (by decide))

end NodeDiscovery
