import NodeDiscovery.Proofs.Dispatch
import NodeDiscovery.Proofs.Token

/-! An empty option is the same as none. Two configurations that differ in empty options only are
read alike, option by option, and so a provider does the same for both of them. -/
namespace NodeDiscovery

namespace Config

/-- The configurations are for the same provider and have the same options, but for empty ones. -/
structure Alike (c c' : Config) : Prop where
  provider : c'.provider = c.provider
  nonempty? : ∀ key, c'.nonempty? key = c.nonempty? key

theorem alike_erase {c : Config} {key : String} (hkey : key ≠ providerKey)
    (hempty : c.get? key = some "") : c.Alike (c.erase key) where
  provider := by rw [provider, provider, Table.get?_erase, if_neg hkey.symm]
  nonempty? := by
    intro other
    rw [nonempty?, nonempty?, Table.get?_erase]
    by_cases h : other = key
    · subst h
      rw [if_pos rfl, hempty]
      rfl
    · rw [if_neg h]

namespace Alike
variable {c c' : Config}

theorem apiToken (h : c.Alike c') (env : Environment) (variable_ : String) :
    c'.apiToken env variable_ = c.apiToken env variable_ := by
  rw [Config.apiToken, Config.apiToken, orVariable, orVariable, h.nonempty?]

end Alike
end Config

section Settle
variable {c c' : Config} (h : c.Alike c')
include h

theorem Ec2.settle_congr (env : Environment) : settle env c' = settle env c := by
  simp only [settle, query_congr fun key _ => h.nonempty? key, credentials, h.nonempty?]

theorem CommandLine.settle_congr : settle c' = settle c := by
  simp only [settle, Config.required_congr (h.nonempty? _), Config.parsed_congr (h.nonempty? _)]

theorem Dns.settle_congr : settle c' = settle c := by
  simp only [settle, lookup, Config.required_congr (h.nonempty? _),
    Config.parsed_congr (h.nonempty? _)]

/-- An empty list of tags is a list of tags, so that option has to be the same. -/
theorem WebService.settle_congr (s : WebService)
    (hlist : s = digitalOcean → c'.get? "tag_names" = c.get? "tag_names") (baseUrl : String)
    (userAgent : Option String) (env : Environment) :
    s.search.settle baseUrl userAgent env c' = s.search.settle baseUrl userAgent env c :=
  WebSearch.settle_congr (s.options_congr (fun key _ => h.nonempty? key) hlist) (h.apiToken _ _)

end Settle

theorem Builtin.find_congr {c c' : Config} (h : c.Alike c') (b : Builtin)
    (hlist : ∀ baseUrl, b = .digitalOcean baseUrl → c'.get? "tag_names" = c.get? "tag_names")
    (userAgent : Option String) (world : World) :
    b.provider.find userAgent world c' = b.provider.find userAgent world c := by
  rw [find_eq, find_eq]
  refine Search.find_congr h.provider ?_ fun _ => rfl
  cases b with
  | aws => exact Ec2.settle_congr h world.env
  | cmd => exact CommandLine.settle_congr h
  | digitalOcean baseUrl =>
    exact WebService.digitalOcean.settle_congr h (fun _ => hlist baseUrl rfl) baseUrl userAgent _
  | dns => exact Dns.settle_congr h
  | hetzner baseUrl => exact WebService.hetzner.settle_congr h nofun baseUrl userAgent _
  | linode baseUrl => exact WebService.linode.settle_congr h nofun baseUrl userAgent _
  | vultr baseUrl => exact WebService.vultr.settle_congr h nofun baseUrl userAgent _

/-- An empty option is the same as an absent one. Without it a call ends the same way, does the same
and logs the same, whether the provider is asked by itself or found by its name. This holds of all
options but two: the one that names the provider, and the list of tags of DigitalOcean, which is a
list even if it is empty. -/
theorem empty_option_counts_as_absent (b : Builtin) (world : World) (c : Config) (key : String)
    (hempty : c.get? key = some "") (hkey : key ≠ "provider")
    (hlist : ∀ baseUrl, b = .digitalOcean baseUrl → key ≠ "tag_names") (logger : Logger) :
    (∀ userAgent, (b.provider.find userAgent world (c.erase key)).run logger =
      (b.provider.find userAgent world c).run logger) ∧
    ∀ (r : Registry) (name : String) (p : Provider), r.get? name = some p →
      p.find = b.provider.find → c.provider = some name →
      (r.discoverConfig world (c.erase key)).run logger = (r.discoverConfig world c).run logger ∧
      ∀ text text', Config.parse text = .ok c → Config.parse text' = .ok (c.erase key) →
        (r.discover world text').run logger = (r.discover world text).run logger := by
  have halike : c.Alike (c.erase key) := Config.alike_erase hkey hempty
  have hfind (userAgent : Option String) : b.provider.find userAgent world (c.erase key) =
      b.provider.find userAgent world c :=
    b.find_congr halike (fun baseUrl hb => by
      rw [Table.get?_erase, if_neg (hlist baseUrl hb).symm]) userAgent world
  refine ⟨fun userAgent => by rw [hfind], fun r name p registered same hname => ?_⟩
  have hdiscover : r.discoverConfig world (c.erase key) = r.discoverConfig world c := by
    unfold Registry.discoverConfig
    rw [halike.provider, hname]
    simp only [registered]
    rw [Provider.addresses, Provider.addresses, same, hfind]
  refine ⟨by rw [hdiscover], fun text text' hparsed hparsed' => ?_⟩
  rw [Registry.discover_of_parse hparsed, Registry.discover_of_parse hparsed', hdiscover]

/-- An empty region is none: the droplet is found in whatever region it is. -/
theorem empty_option_counts_as_absent_region :
    let c : Config := .ofList [("provider", "digitalocean"), ("tag_name", "a"), ("region", ""),
      ("api_token", "t")]
    let r : Registry := ⟨.ofList [("digitalocean", DigitalOcean.provider "http://[::1]:8080")]⟩
    let world : World := { World.offline [] with
      web := [.response 200 "[[[7,\"d\",[[[\"10.0.0.1\",\"private\"]]],[\"lon\"],[\"a\"]]]]"] }
    let run := (r.discoverConfig world c).run .everything
    (r.discoverConfig world (c.erase "region")).run .everything = run ∧
      (r.discover world "provider=digitalocean tag_name=a api_token=t").run .everything =
        (r.discover world "provider=digitalocean region=\"\" tag_name=a api_token=t").run
          .everything ∧
      run.result = .ok ["10.0.0.1"] ∧ run.events.length = 1 ∧
      run.log.map Record.text = ["Using region= tag_names=a", "Found 1 droplets",
        "Found instance d (7) with private IP: 10.0.0.1",
        "Found ip addresses: [\"10.0.0.1\"]"] := by
  intro c r world run
  obtain ⟨-, hregistry⟩ := empty_option_counts_as_absent (.digitalOcean "http://[::1]:8080") world c
    "region" (by decide) (by decide) (fun _ _ => by decide) .everything
  obtain ⟨hconfig, htext⟩ := hregistry r "digitalocean" _ rfl rfl (by decide)
  exact ⟨hconfig, htext _ _ (by decide +kernel) (by decide +kernel), by decide +kernel,
    by decide +kernel, by decide +kernel⟩

end NodeDiscovery
