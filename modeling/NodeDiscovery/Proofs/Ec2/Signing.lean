import NodeDiscovery.Proofs.Arguments
import NodeDiscovery.Proofs.Employment
import NodeDiscovery.Proofs.Findings

/-! Who signs the requests for EC2: the keys of the configuration with its session token, or those
of the environment with theirs, and never some of each. -/
namespace NodeDiscovery.Ec2
variable {world : World} {c c' : Config} {q : Query} {env env' : Environment}

/-- A search does nothing outside, or its configuration asks for something. -/
theorem refuses_or_poses (userAgent : Option String) (world : World) (c : Config) :
    (find userAgent world c).Refuses ∨ ∃ q, Poses c world.env q := by
  rw [find_eq]
  obtain hrefuses | ⟨hprovider, plan, hplan⟩ := search.refuses_or_settles world c
  · exact .inl hrefuses
  · exact .inr ⟨plan.1, (of_quiet_settle hprovider hplan).1⟩

theorem Poses.mem_events_find (h : Poses c world.env q) {userAgent : Option String}
    {logger : Logger} {event : Event}
    (hevent : event ∈ ((find userAgent world c).run logger).events) :
    ∃ signing token, credentialsOf c world.env = some signing ∧
      event = .ec2 ⟨signing, q.region, listingParameters q.tagKey q.tagValue token⟩ := by
  obtain ⟨asked, hall⟩ := allOrNothing_find h userAgent logger
  have hevents : ((find userAgent world c).run logger).events = _ := hall.events
  rw [hevents] at hevent
  obtain ⟨events, hmem, hin⟩ := List.mem_flatten.mp hevent
  obtain ⟨i, hi, rfl⟩ := List.mem_mapIdx.mp hmem
  simp only [service] at hin
  cases hcredentials : credentialsOf c world.env with
  | none =>
    rw [hcredentials] at hin
    cases hin
  | some signing =>
    rw [hcredentials] at hin
    obtain ⟨-, hrequest⟩ := List.mem_ite_nil_right.mp hin
    exact ⟨signing, asked[i], rfl, List.mem_singleton.mp hrequest⟩

/-- Each request of a search has the credentials there are, and the region that is chosen. -/
theorem signed_of_mem_events {userAgent : Option String} {logger : Logger} {event : Event}
    (hevent : event ∈ ((find userAgent world c).run logger).events) :
    ∃ signing region parameters, credentialsOf c world.env = some signing ∧
      (regionOf c world.env).map (·.reachedAt (c.nonempty? "endpoint")) = some region ∧
      event = .ec2 ⟨signing, region, parameters⟩ := by
  rcases refuses_or_poses userAgent world c with hrefuses | ⟨q, h⟩
  · rw [hrefuses.events_eq_nil logger] at hevent
    cases hevent
  · obtain ⟨signing, token, hsigning, rfl⟩ := h.mem_events_find hevent
    exact ⟨signing, q.region, _, hsigning, h.region, rfl⟩

def HoldsKeys (c : Config) : Prop :=
  (c.nonempty? "access_key_id").isSome ∧ (c.nonempty? "secret_access_key").isSome

instance (c : Config) : Decidable (HoldsKeys c) := inferInstanceAs (Decidable (_ ∧ _))

def credentialVariables : List String :=
  ["AWS_ACCESS_KEY_ID", "AWS_SECRET_ACCESS_KEY", "AWS_SESSION_TOKEN"]

theorem credentials_of_keys {ε : Type} {accessKey secretKey : String}
    (haccess : c.nonempty? "access_key_id" = some accessKey)
    (hsecret : c.nonempty? "secret_access_key" = some secretKey) (env : Environment) :
    (credentials c env : Call ε (Option Credentials)) = (do
      Call.log .debug target "Static credentials provided"
      return some ⟨accessKey, secretKey, c.nonempty? "session_token"⟩) := by
  rw [credentials, haccess, hsecret]

/-- Without both keys nothing of the configuration is used. -/
theorem credentials_of_not_holdsKeys {ε : Type} (h : ¬ HoldsKeys c) (env : Environment) :
    (credentials c env : Call ε (Option Credentials)) = (do
      Call.log .debug target "Using environment variables, shared credentials or instance role"
      return environmentCredentials? env) := by
  rw [credentials]
  cases haccess : c.nonempty? "access_key_id" with
  | none => rfl
  | some accessKey =>
    cases hsecret : c.nonempty? "secret_access_key" with
    | none => rfl
    | some secretKey => exact absurd ⟨by rw [haccess]; rfl, by rw [hsecret]; rfl⟩ h

theorem credentialsOf_of_not_holdsKeys (h : ¬ HoldsKeys c) (env : Environment) :
    credentialsOf c env = environmentCredentials? env := by
  have hfound := quiet_credentials (ε := Unit) c env .discard
  rw [credentials_of_not_holdsKeys h] at hfound
  exact (Except.ok.inj (congrArg Prod.fst hfound)).symm

theorem of_environmentCredentials? {signing : Credentials}
    (h : environmentCredentials? env = some signing) :
    env "AWS_ACCESS_KEY_ID" = some signing.accessKey ∧
      env "AWS_SECRET_ACCESS_KEY" = some signing.secretKey ∧
      (env "AWS_SESSION_TOKEN").filter (· ≠ "") = signing.sessionToken := by
  simp only [environmentCredentials?, bind, Option.bind_eq_some_iff, pure] at h
  obtain ⟨accessKey, haccess, secretKey, hsecret, hsigning⟩ := h
  obtain rfl := Option.some.inj hsigning
  exact ⟨(Option.filter_eq_some_iff.mp haccess).1, (Option.filter_eq_some_iff.mp hsecret).1, rfl⟩

theorem query_env_congr (h : ∀ variable_ ∉ credentialVariables, env' variable_ = env variable_)
    (c : Config) : query c env' = query c env := by
  have henvironment : Region.ofEnvironment env' = Region.ofEnvironment env := by
    rw [Region.ofEnvironment, Region.ofEnvironment, h "AWS_DEFAULT_REGION" (by decide),
      h "AWS_REGION" (by decide)]
  have hregion : region c env' = region c env := by
    rw [region, region, henvironment]
  rw [query, query, hregion]

theorem find_congr_of_keys {accessKey secretKey : String}
    (haccess : c.nonempty? "access_key_id" = some accessKey)
    (hsecret : c.nonempty? "secret_access_key" = some secretKey)
    (h : ∀ variable_ ∉ credentialVariables, env variable_ = world.env variable_)
    (userAgent : Option String) :
    find userAgent { world with env } c = find userAgent world c := by
  rw [find, find, query_env_congr h, credentials_of_keys haccess hsecret,
    credentials_of_keys haccess hsecret]

theorem find_congr_of_not_holdsKeys (hkeys : ¬ HoldsKeys c) (hkeys' : ¬ HoldsKeys c')
    (h : ∀ key ∉ credentialOptions, c'.get? key = c.get? key) (userAgent : Option String)
    (world : World) : find userAgent world c' = find userAgent world c := by
  have hprovider : c'.provider = c.provider := h Config.providerKey (by decide)
  have hnonempty (key : String) (hkey : key ∉ credentialOptions) :
      c'.nonempty? key = c.nonempty? key := by
    rw [Config.nonempty?, Config.nonempty?, h key hkey]
  rw [find, find, Config.expectProvider_congr hprovider, query_congr hnonempty,
    credentials_of_not_holdsKeys hkeys, credentials_of_not_holdsKeys hkeys']

/-- Credentials are never mixed.

All requests of a search are signed alike and for the same region. If both keys are in the
configuration, they are signed with these and with its session token, and the credentials of the
environment have no influence. Otherwise key, secret and session token are all those of the
environment, and what the configuration has of them has no influence on what a search asks, tells or
finds. -/
theorem credentials_never_mixed (userAgent : Option String) (world : World) (c : Config)
    (logger : Logger) :
    let run := (find userAgent world c).run logger
    (∃ signing region, ∀ event ∈ run.events,
      ∃ parameters, event = .ec2 ⟨signing, region, parameters⟩) ∧
    (∀ accessKey secretKey, c.nonempty? "access_key_id" = some accessKey →
      c.nonempty? "secret_access_key" = some secretKey →
      (∀ request, .ec2 request ∈ run.events →
        request.credentials = ⟨accessKey, secretKey, c.nonempty? "session_token"⟩) ∧
      ∀ env : Environment,
        (∀ variable_ ∉ credentialVariables, env variable_ = world.env variable_) →
        find userAgent { world with env } c = find userAgent world c) ∧
    (¬ HoldsKeys c →
      (∀ request, .ec2 request ∈ run.events →
        world.env "AWS_ACCESS_KEY_ID" = some request.credentials.accessKey ∧
        world.env "AWS_SECRET_ACCESS_KEY" = some request.credentials.secretKey ∧
        (world.env "AWS_SESSION_TOKEN").filter (· ≠ "") = request.credentials.sessionToken) ∧
      ∀ c' : Config, ¬ HoldsKeys c' → (∀ key ∉ credentialOptions, c'.get? key = c.get? key) →
        find userAgent world c' = find userAgent world c) := by
  intro run
  refine ⟨?_, fun accessKey secretKey haccess hsecret => ⟨fun request hrequest => ?_, ?_⟩,
    fun hkeys => ⟨fun request hrequest => ?_, ?_⟩⟩
  · cases hevents : run.events with
    | nil => exact ⟨⟨"", "", none⟩, .fallback, fun _ hevent => absurd hevent List.not_mem_nil⟩
    | cons first rest =>
      have hall : ∀ event ∈ first :: rest, _ := fun event hevent =>
        signed_of_mem_events (hevents ▸ hevent)
      obtain ⟨signing, region, -, hsigning, hregion, -⟩ := hall first List.mem_cons_self
      refine ⟨signing, region, fun event hevent => ?_⟩
      obtain ⟨signing', region', parameters, hsigning', hregion', rfl⟩ := hall event hevent
      obtain rfl := Option.some.inj (hsigning.symm.trans hsigning')
      obtain rfl := Option.some.inj (hregion.symm.trans hregion')
      exact ⟨parameters, rfl⟩
  · obtain ⟨signing, region, parameters, hsigning, -, hevent⟩ := signed_of_mem_events hrequest
    obtain rfl := Event.ec2.inj hevent
    rw [credentialsOf, haccess, hsecret] at hsigning
    exact (Option.some.inj hsigning).symm
  · exact fun env henv => find_congr_of_keys haccess hsecret henv userAgent
  · obtain ⟨signing, region, parameters, hsigning, -, hevent⟩ := signed_of_mem_events hrequest
    obtain rfl := Event.ec2.inj hevent
    rw [credentialsOf_of_not_holdsKeys hkeys] at hsigning
    exact of_environmentCredentials? hsigning
  · exact fun c' hkeys' h => find_congr_of_not_holdsKeys hkeys hkeys' h userAgent world

/-- A lone key is not used, nor is a session token beside it, and both keys are used with it, for
the page after the first one as well. -/
theorem credentials_never_mixed_sample :
    let world : World := { World.offline [("AWS_ACCESS_KEY_ID", "e"),
      ("AWS_SECRET_ACCESS_KEY", "f"), ("AWS_SESSION_TOKEN", "g")] with
        ec2 := [.page ⟨none, some "n"⟩, .page ⟨some [⟨none, none⟩], none⟩] }
    let lone : Config := .ofList [("provider", "aws"), ("tag_key", "k"), ("tag_value", "v"),
      ("access_key_id", "i"), ("session_token", "t")]
    let both := lone.insert "secret_access_key" "s"
    let run (c : Config) := (find none world c).run .everything
    ((run lone).events.length = 2 ∧ ∀ request, .ec2 request ∈ (run lone).events →
      world.env "AWS_ACCESS_KEY_ID" = some request.credentials.accessKey ∧
        (world.env "AWS_SESSION_TOKEN").filter (· ≠ "") = request.credentials.sessionToken) ∧
    find none world (lone.erase "access_key_id") = find none world lone ∧
    ((run both).events.length = 2 ∧
      (∃ signing region, ∀ event ∈ (run both).events,
        ∃ parameters, event = .ec2 ⟨signing, region, parameters⟩) ∧
      ∀ request, .ec2 request ∈ (run both).events →
        request.credentials = ⟨"i", "s", some "t"⟩) ∧
    find none { world with env := fun _ => none } both = find none world both := by
  intro world lone both run
  obtain ⟨-, -, hlone⟩ := credentials_never_mixed none world lone .everything
  obtain ⟨halike, hboth, -⟩ := credentials_never_mixed none world both .everything
  obtain ⟨hsigned, hignored⟩ := hlone (by decide)
  obtain ⟨hstatic, henvironment⟩ := hboth "i" "s" (by decide) (by decide)
  refine ⟨⟨by decide +kernel, fun request hrequest => ?_⟩, ?_,
    ⟨by decide +kernel, halike, hstatic⟩, ?_⟩
  · obtain ⟨haccess, -, hsession⟩ := hsigned request hrequest
    exact ⟨haccess, hsession⟩
  · refine hignored _ (by decide) fun key hkey => ?_
    rw [Table.get?_erase, if_neg (ne_of_mem_of_not_mem (by decide) hkey).symm]
  · refine henvironment _ fun variable_ hvariable => ?_
    exact (List.lookup_eq_none_iff.mpr (by simpa [credentialVariables] using hvariable)).symm

end NodeDiscovery.Ec2
