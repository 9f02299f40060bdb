import NodeDiscovery.Proofs.Builtin
import NodeDiscovery.Proofs.Dispatch
import NodeDiscovery.World.Offline

/-! Arguments are checked before anything is asked for. Each provider has its checks in an order,
and the first one that fails decides how a call ends. -/
namespace NodeDiscovery

/-- What the first check that fails has found. -/
def firstFault (checks : List (Option ProviderError)) : Option ProviderError :=
  checks.findSome? id

namespace Call
variable {ε α β γ : Type} {x : Call ProviderError α} {f : α → Call ProviderError β}
  {check : Option ProviderError} {checks more : List (Option ProviderError)}

/-- A call that makes some checks: it fails with what the first one that fails has found, or
succeeds, and does nothing but write records. -/
def Decides (x : Call ProviderError α) (checks : List (Option ProviderError)) : Prop :=
  match firstFault checks with
  | some fault => fault.isArgument = true ∧ ∀ logger, x.outcome logger = (.error fault, [])
  | none => ∃ a, x.Quiet a

/-- A call that begins with checks: the first one that fails is its end, and otherwise it fails for
nothing but an answer. -/
def Guards (x : Call ProviderError α) (checks : List (Option ProviderError)) : Prop :=
  match firstFault checks with
  | some fault => fault.isArgument = true ∧ ∀ logger, x.outcome logger = (.error fault, [])
  | none => x.Accepts

theorem decides_ofExcept {r : Except ProviderError α}
    (h : match check with
      | some fault => fault.isArgument = true ∧ r = .error fault
      | none => ∃ a, r = .ok a) : (ofExcept r).Decides [check] := by
  cases check with
  | some fault =>
    obtain ⟨hargument, rfl⟩ := h
    exact ⟨hargument, fun _ => rfl⟩
  | none =>
    obtain ⟨a, rfl⟩ := h
    exact ⟨a, quiet_ofExcept a⟩

theorem Quiet.decides {a : α} (h : x.Quiet a) : x.Decides [] := ⟨a, h⟩

theorem Decides.bind (hx : x.Decides checks) (hf : ∀ a, (f a).Decides more) :
    (x >>= f).Decides (checks ++ more) := by
  have hfirst : firstFault (checks ++ more) = (firstFault checks).or (firstFault more) :=
    List.findSome?_append
  unfold Decides at hx ⊢
  rw [hfirst]
  cases hfault : firstFault checks with
  | some fault =>
    rw [hfault] at hx
    exact ⟨hx.1, fun logger => outcome_bind_error (hx.2 logger)⟩
  | none =>
    rw [hfault] at hx
    obtain ⟨a, ha⟩ := hx
    have hrest := hf a
    unfold Decides at hrest
    rw [Option.none_or]
    cases hmore : firstFault more with
    | some fault =>
      rw [hmore] at hrest
      exact ⟨hrest.1, fun logger => (ha.outcome_bind f logger).trans (hrest.2 logger)⟩
    | none =>
      rw [hmore] at hrest
      obtain ⟨b, hb⟩ := hrest
      exact ⟨b, ha.bind hb⟩

theorem Decides.guards_bind (hx : x.Decides checks) (hf : ∀ a, (f a).Accepts) :
    (x >>= f).Guards checks := by
  unfold Decides at hx
  unfold Guards
  cases hfault : firstFault checks with
  | some fault =>
    rw [hfault] at hx
    exact ⟨hx.1, fun logger => outcome_bind_error (hx.2 logger)⟩
  | none =>
    rw [hfault] at hx
    obtain ⟨a, ha⟩ := hx
    exact ha.accepts.bind hf

/-- Such a call ends in an argument error just if a check fails, namely in that of the first one. -/
theorem Guards.result_eq_iff (h : x.Guards checks) (logger : Logger) (e : ProviderError) :
    (x.run logger).result = .error e ∧ e.isArgument = true ↔ firstFault checks = some e := by
  unfold Guards at h
  cases hfault : firstFault checks with
  | some fault =>
    rw [hfault] at h
    obtain ⟨hargument, houtcome⟩ := h
    have hresult : (x.run logger).result = .error fault := congrArg Prod.fst (houtcome logger)
    rw [hresult]
    constructor
    · rintro ⟨he, -⟩
      exact congrArg some (Except.error.inj he)
    · intro he
      obtain rfl := Option.some.inj he
      exact ⟨rfl, hargument⟩
  | none =>
    rw [hfault] at h
    constructor
    · rintro ⟨he, hargument⟩
      rw [h logger e he] at hargument
      cases hargument
    · intro he
      cases he

theorem Guards.events_eq_nil (h : x.Guards checks) {e : ProviderError}
    (he : firstFault checks = some e) (logger : Logger) : (x.run logger).events = [] := by
  unfold Guards at h
  rw [he] at h
  exact congrArg Prod.snd (h.2 logger)

theorem ofExcept_bind (r : Except ε α) (g : α → Except ε γ) :
    (ofExcept (r >>= g) : Call ε γ) = ofExcept r >>= fun a => ofExcept (g a) := by
  cases r <;> rfl

end Call

namespace Config
variable (c : Config)

def wrongProvider? (name : String) : Option ProviderError :=
  if c.provider = some name then none else some (.invalidProvider (c.provider.getD ""))

def missing? (key : String) : Option ProviderError :=
  if c.getD key = "" then some (.missingArgument key) else none

def malformed? {α : Type} (key : String) (read : String → Except String α) :
    Option ProviderError :=
  if c.getD key = "" then none
  else match read (c.getD key) with
    | .ok _ => none
    | .error reason => some (.malformedArgument (key ++ "=" ++ c.getD key) reason)

def tokenless? (env : Environment) (variable_ : String) : Option ProviderError :=
  if c.getD "api_token" = "" ∧ (env variable_).getD "" = "" then
    some (.missingArgument "api_token")
  else none

theorem nonempty?_eq (key : String) :
    c.nonempty? key = if c.getD key = "" then none else some (c.getD key) := by
  unfold nonempty? getD
  cases c.get? key with
  | none => simp
  | some value => by_cases h : value = "" <;> simp [h, Option.filter]

theorem decides_expectProvider (name : String) :
    (Call.ofExcept (c.expectProvider name)).Decides [c.wrongProvider? name] := by
  refine Call.decides_ofExcept ?_
  unfold expectProvider wrongProvider?
  by_cases h : c.provider = some name <;> simp [h]

theorem decides_required (key : String) :
    (Call.ofExcept (c.required key)).Decides [c.missing? key] := by
  refine Call.decides_ofExcept ?_
  unfold required missing?
  rw [nonempty?_eq]
  by_cases h : c.getD key = "" <;> simp [h]

theorem decides_parsed {α : Type} (key : String) (read : String → Except String α) (default : α) :
    (Call.ofExcept (c.parsed key read default)).Decides [c.malformed? key read] := by
  refine Call.decides_ofExcept ?_
  unfold parsed malformed?
  rw [nonempty?_eq]
  by_cases h : c.getD key = ""
  · simp [h]
  · cases hread : read (c.getD key) <;> simp [h, hread, Except.mapError]

theorem decides_apiToken (env : Environment) (variable_ : String) :
    (Call.ofExcept (c.apiToken env variable_)).Decides [c.tokenless? env variable_] := by
  refine Call.decides_ofExcept ?_
  unfold apiToken orVariable tokenless?
  rw [nonempty?_eq]
  by_cases h : c.getD "api_token" = ""
  · cases env variable_ with
    | none => simp [h]
    | some token => by_cases htoken : token = "" <;> simp [h, htoken, Option.filter]
  · simp [h]

end Config

/-- A search whose plan depends on some checks makes them, after that of the name. -/
theorem Search.guards_find {s : Search} {world : World} {c : Config}
    {checks : List (Option ProviderError)} (hsettle : (s.settle world.env c).Decides checks) :
    (s.find world c).Guards (c.wrongProvider? s.name :: checks) := by
  have hchecks := (c.decides_expectProvider s.name).bind fun _ => hsettle
  have hguards := hchecks.guards_bind fun plan =>
    (s.accepts_ask world plan).bind fun found => s.accepts_tell plan found
  rwa [bind_assoc] at hguards

theorem WebSearch.decides_settle (w : WebSearch) {c : Config}
    {checks : List (Option ProviderError)} (hoptions : (w.options c).Decides checks)
    (baseUrl : String) (userAgent : Option String) (env : Environment) :
    (w.settle baseUrl userAgent env c).Decides (checks ++ [c.tokenless? env w.tokenVariable]) :=
  hoptions.bind fun _ => (c.decides_apiToken env w.tokenVariable).bind fun _ =>
    (Call.writes_log_pure _ _ _ _).quiet.decides

namespace Ec2

/-- The kinds of addresses that an instance tells of. -/
def readKind (s : String) : Except String AddressKind :=
  match AddressKind.read s with
  | .ok .privateV6 => .error "Valid values are private_v4, public_v4 or public_v6"
  | result => result

def readRegion (s : String) : Except String Region :=
  match Region.ofText? s with
  | some region => .ok region
  | none => .error "The value is not a valid AWS Region"

def checks (c : Config) : List (Option ProviderError) :=
  [c.wrongProvider? providerName, c.missing? "tag_key", c.missing? "tag_value",
    c.malformed? "addr_type" readKind, c.malformed? "region" readRegion]

theorem decides_addressKind (c : Config) :
    (Call.ofExcept (addressKind c)).Decides [c.malformed? "addr_type" readKind] := by
  refine Call.decides_ofExcept ?_
  unfold addressKind Config.parsed Config.malformed? readKind AddressKind.read
  rw [Config.nonempty?_eq]
  by_cases h : c.getD "addr_type" = ""
  · simp only [h, if_true]
    exact ⟨_, rfl⟩
  · simp only [h, if_false]
    cases hkind : AddressKind.ofName? (c.getD "addr_type") with
    | none => exact ⟨rfl, rfl⟩
    | some kind =>
      have hname := AddressKind.ofName?_eq_some_iff.mp hkind
      cases kind with
      | privateV6 =>
        rw [hname]
        exact ⟨rfl, rfl⟩
      | privateV4 => exact ⟨_, rfl⟩
      | publicV4 => exact ⟨_, rfl⟩
      | publicV6 => exact ⟨_, rfl⟩

theorem decides_region (c : Config) (env : Environment) :
    (region c env).Decides [c.malformed? "region" readRegion] := by
  unfold region Config.malformed? readRegion
  rw [Config.nonempty?_eq]
  by_cases h : c.getD "region" = ""
  · simp only [h, if_true]
    exact ⟨_, (Call.quiet_log _ _ _).bind (Call.quiet_pure _)⟩
  · cases hregion : Region.ofText? (c.getD "region") with
    | none =>
      simp only [h, if_false, hregion]
      exact ⟨rfl, fun _ => rfl⟩
    | some region =>
      simp only [h, if_false, hregion]
      exact ⟨_, Call.quiet_pure _⟩

theorem decides_settle (c : Config) (env : Environment) :
    (settle env c).Decides [c.missing? "tag_key", c.missing? "tag_value",
      c.malformed? "addr_type" readKind, c.malformed? "region" readRegion] := by
  have hquery : (query c env).Decides [c.missing? "tag_key", c.missing? "tag_value",
      c.malformed? "addr_type" readKind, c.malformed? "region" readRegion] := by
    refine (c.decides_required "tag_key").bind fun _ => (c.decides_required "tag_value").bind
      fun _ => (decides_addressKind c).bind fun _ => (decides_region c env).bind fun _ => ?_
    cases c.nonempty? "endpoint" with
    | none => exact (Call.quiet_pure _).decides
    | some endpoint => exact (Call.writes_log_pure _ _ _ _).quiet.decides
  exact hquery.bind fun _ => (Call.quiet_log _ _ _).decides.bind fun _ =>
    (quiet_credentials c env).decides.bind fun _ => (Call.writes_log_pure _ _ _ _).quiet.decides

end Ec2

namespace CommandLine

def checks (c : Config) : List (Option ProviderError) :=
  [c.wrongProvider? providerName, c.missing? "cmdline", c.malformed? "timeout" readTimeout]

theorem decides_settle (c : Config) :
    (settle c).Decides [c.missing? "cmdline", c.malformed? "timeout" readTimeout] :=
  (c.decides_required "cmdline").bind fun _ =>
    (c.decides_parsed "timeout" readTimeout defaultTimeout).bind fun _ =>
      (Call.writes_log_pure _ _ _ _).quiet.decides

end CommandLine

namespace DigitalOcean

/-- No tag is named: neither in the list, if there is one, nor by itself. -/
def untagged? (c : Config) : Option ProviderError :=
  let required := match c.get? "tag_names" with
    | some names => splitTags names
    | none => [c.getD "tag_name"].filter (· ≠ "")
  if required = [] then some (.missingArgument "tag_name") else none

def checks (env : Environment) (c : Config) : List (Option ProviderError) :=
  [c.wrongProvider? providerName, untagged? c, c.tokenless? env "DIGITALOCEAN_TOKEN"]

theorem decides_tags (c : Config) : (Call.ofExcept (tags c)).Decides [untagged? c] := by
  refine Call.decides_ofExcept ?_
  unfold tags untagged?
  rw [Config.nonempty?_eq]
  cases c.get? "tag_names" with
  | none => by_cases h : c.getD "tag_name" = "" <;> simp [h]
  | some names => cases h : splitTags names <;> simp [h]

theorem decides_criteria (c : Config) : (criteria c).Decides [untagged? c] :=
  (decides_tags c).bind fun _ => (Call.quiet_pure _).decides

end DigitalOcean

namespace Dns

def checks (c : Config) : List (Option ProviderError) :=
  [c.wrongProvider? providerName, c.missing? "query", c.malformed? "server" Address.Ip.read,
    c.malformed? "port" readPort, c.malformed? "timeout" readTimeout]

theorem decides_settle (c : Config) :
    (settle c).Decides [c.missing? "query", c.malformed? "server" Address.Ip.read,
      c.malformed? "port" readPort, c.malformed? "timeout" readTimeout] := by
  unfold settle lookup
  simp only [Call.ofExcept_bind, bind_assoc]
  exact (c.decides_required "query").bind fun _ =>
    (c.decides_parsed "server" Address.Ip.read defaultServer).bind fun _ =>
    (c.decides_parsed "port" readPort defaultPort).bind fun _ =>
    (c.decides_parsed "timeout" readTimeout defaultTimeout).bind fun _ =>
    (Call.quiet_ofExcept _).decides.bind fun _ => (Call.writes_log_pure _ _ _ _).quiet.decides

end Dns

namespace Hetzner

def checks (env : Environment) (c : Config) : List (Option ProviderError) :=
  [c.wrongProvider? providerName, c.tokenless? env "HCLOUD_TOKEN"]

end Hetzner

namespace Linode

def checks (env : Environment) (c : Config) : List (Option ProviderError) :=
  [c.wrongProvider? providerName, c.malformed? "address_type" AddressKind.read,
    c.tokenless? env "LINODE_TOKEN"]

theorem decides_criteria (c : Config) :
    (criteria c).Decides [c.malformed? "address_type" AddressKind.read] :=
  (c.decides_parsed "address_type" AddressKind.read default).bind fun _ =>
    (Call.quiet_pure _).decides

end Linode

namespace Vultr

def checks (env : Environment) (c : Config) : List (Option ProviderError) :=
  [c.wrongProvider? providerName, c.tokenless? env "VULTR_API_KEY"]

end Vultr

namespace Builtin

/-- What each of its checks finds, in their order. -/
def checks (env : Environment) (c : Config) : Builtin → List (Option ProviderError)
  | aws => Ec2.checks c
  | cmd => CommandLine.checks c
  | digitalOcean _ => DigitalOcean.checks env c
  | dns => Dns.checks c
  | hetzner _ => Hetzner.checks env c
  | linode _ => Linode.checks env c
  | vultr _ => Vultr.checks env c

variable (b : Builtin) (userAgent : Option String) (world : World) {c : Config}

theorem decides_settle (env : Environment) (c : Config) : ∃ checks,
    b.checks env c = c.wrongProvider? b.name :: checks ∧
      ((b.search userAgent).settle env c).Decides checks := by
  cases b with
  | aws => exact ⟨_, rfl, Ec2.decides_settle c env⟩
  | cmd => exact ⟨_, rfl, CommandLine.decides_settle c⟩
  | digitalOcean baseUrl =>
    exact ⟨_, rfl,
      DigitalOcean.search.decides_settle (DigitalOcean.decides_criteria c) baseUrl userAgent env⟩
  | dns => exact ⟨_, rfl, Dns.decides_settle c⟩
  | hetzner baseUrl =>
    exact ⟨_, rfl,
      Hetzner.search.decides_settle (Hetzner.quiet_criteria c).decides baseUrl userAgent env⟩
  | linode baseUrl =>
    exact ⟨_, rfl, Linode.search.decides_settle (Linode.decides_criteria c) baseUrl userAgent env⟩
  | vultr baseUrl =>
    exact ⟨_, rfl,
      Vultr.search.decides_settle (Call.quiet_pure (Vultr.criteriaOf c)).decides baseUrl userAgent
        env⟩

theorem guards_find (c : Config) :
    (b.provider.find userAgent world c).Guards (b.checks world.env c) := by
  obtain ⟨checks, hchecks, hsettle⟩ := b.decides_settle userAgent world.env c
  have hguards := Search.guards_find hsettle
  rwa [name_search, ← hchecks, ← find_eq] at hguards

theorem run_find_of_wrong (h : c.provider ≠ some b.name) (logger : Logger) :
    (b.provider.find userAgent world c).run logger =
      ⟨.error (.invalidProvider (c.provider.getD "")), [], []⟩ := by
  rw [← name_search b userAgent] at h
  rw [find_eq, Search.find_of_wrong h]
  rfl

/-- Under another name every configuration that leads to the provider is one for another. -/
theorem run_discoverConfig_of_wrong {r : Registry} {name : String} {p : Provider}
    (hregistered : r.get? name = some p) (hfind : p.find = b.provider.find)
    (hname : name ≠ b.name) (hprovider : c.provider = some name) (logger : Logger) :
    (r.discoverConfig world c).run logger =
      ⟨.error (.provider name (.invalidProvider name)), [], []⟩ := by
  have hwrong : c.provider ≠ some b.name := by
    rw [hprovider]
    exact fun h => hname (Option.some.inj h)
  unfold Registry.discoverConfig
  rw [hprovider]
  simp only [hregistered]
  rw [Call.run_mapError, Provider.addresses, hfind, b.run_find_of_wrong _ world hwrong, hprovider]
  rfl

end Builtin

/-- Arguments are checked first. A call of a provider ends in an argument error exactly where one of
its checks fails, which is the error of the first one that does, and then nothing was sent, looked
up or run. Registered under a name that is not its own, a provider refuses all that comes to it, and
neither does nor logs anything. -/
theorem arguments_checked_first (b : Builtin) (userAgent : Option String) (world : World)
    (c : Config) (logger : Logger) :
    let run := (b.provider.find userAgent world c).run logger
    let fault? := firstFault (b.checks world.env c)
    (∀ e, run.result = .error e ∧ e.isArgument = true ↔ fault? = some e) ∧
    (∀ e, fault? = some e → run.events = []) ∧
    ∀ (r : Registry) (name : String) (p : Provider), r.get? name = some p →
      p.find = b.provider.find → name ≠ b.name → c.provider = some name →
      (r.discoverConfig world c).run logger =
        ⟨.error (.provider name (.invalidProvider name)), [], []⟩ ∧
      ∀ text, Config.parse text = .ok c → (r.discover world text).run logger =
        ⟨.error (.provider name (.invalidProvider name)), [], []⟩ := by
  intro run fault?
  have hguards := b.guards_find userAgent world c
  refine ⟨fun e => hguards.result_eq_iff logger e, fun e he => hguards.events_eq_nil he logger, ?_⟩
  intro r name p hregistered hfind hname hprovider
  have hrefused := b.run_discoverConfig_of_wrong world hregistered hfind hname hprovider logger
  refine ⟨hrefused, fun text hparsed => ?_⟩
  rw [Registry.discover_of_parse hparsed]
  exact hrefused

/-- Of three mistakes the first one counts, and a provider that goes by another name is of no
use. -/
theorem arguments_checked_first_sample :
    let world := World.offline []
    let c : Config := .ofList [("provider", "aws"), ("tag_key", "k"), ("addr_type", "private_v6"),
      ("region", "nowhere")]
    let r : Registry := ⟨.ofList [("other", Ec2.provider)]⟩
    let found := (Ec2.find none world c).run .everything
    found.result = .error (.missingArgument "tag_value") ∧ found.events = [] ∧
      (r.discover world "provider=other").run .everything =
        ⟨.error (.provider "other" (.invalidProvider "other")), [], []⟩ := by
  intro world c r found
  have hfault : firstFault (Builtin.aws.checks world.env c) =
      some (.missingArgument "tag_value") := by decide
  obtain ⟨hresult, hevents, -⟩ := arguments_checked_first .aws none world c .everything
  refine ⟨((hresult _).mpr hfault).1, hevents _ hfault, ?_⟩
  have hparsed : Config.parse "provider=other" = .ok (.ofList [("provider", "other")]) := by
    decide +kernel
  have hregistered : r.get? "other" = some Ec2.provider := rfl
  obtain ⟨-, -, hrefused⟩ := arguments_checked_first .aws none world
    (.ofList [("provider", "other")]) .everything
  exact (hrefused r "other" Ec2.provider hregistered rfl (by decide) rfl).2 _ hparsed

end NodeDiscovery
