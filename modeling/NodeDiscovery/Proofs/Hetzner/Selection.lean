import NodeDiscovery.Proofs.Employment
import NodeDiscovery.Proofs.Mirror
import NodeDiscovery.World.Offline
import Mathlib.Data.List.Forall2
import Mathlib.Data.List.ReduceOption

/-! Which kind of address a search for servers takes, and which address of each server. -/
namespace NodeDiscovery.Hetzner
open Call

/-! The kind -/

def searchFor (kind : AddressKind) (baseUrl : String) (userAgent : Option String) (world : World)
    (c : Config) : Call ProviderError (List String) := do
  let token ← ofExcept (c.apiToken world.env "HCLOUD_TOKEN")
  log .debug target <| "using address_type=" ++ kind.name ++ " label_selector=" ++
    c.getD "label_selector" ++ " location=" ++ (c.nonempty? "location").getD ""
  let found ← (servers ⟨baseUrl, userAgent, token⟩ (c.getD "label_selector") world.web).mapError
    fun fault => .requestFailed fault.message
  let addresses ← gather (report kind)
    (found.filter fun s => (c.nonempty? "location").all (s.location = ·))
  log .debug target ("found IP addresses: " ++ Text.quotedList addresses)
  return addresses

theorem find_eq_searchFor (baseUrl : String) (userAgent : Option String) (world : World)
    {c : Config} (hprovider : c.provider = some providerName) :
    find baseUrl userAgent world c =
      addressKind c >>= fun kind => searchFor kind baseUrl userAgent world c := by
  rw [find, Config.expectProvider_eq_ok_iff.mpr hprovider]
  exact pure_bind () _

/-- Once the kind is known, the option for it is not read again. -/
theorem searchFor_congr {c c' : Config} (h : c.SameBut "address_type" c') (kind : AddressKind)
    (baseUrl : String) (userAgent : Option String) (world : World) :
    searchFor kind baseUrl userAgent world c' = searchFor kind baseUrl userAgent world c := by
  have htoken : c'.apiToken world.env "HCLOUD_TOKEN" = c.apiToken world.env "HCLOUD_TOKEN" := by
    rw [Config.apiToken, Config.apiToken, Config.orVariable, Config.orVariable,
      h.nonempty? (by decide)]
  rw [searchFor, searchFor, htoken, h.getD (by decide), h.nonempty? (by decide)]

def notice (asked : String) : Record :=
  if asked = "" then ⟨.info, target, "address type not provided, using 'private_v4'"⟩
  else ⟨.warn, target, s!"address_type {asked} is invalid, falling back to 'private_v4'. " ++
    "valid values are: private_v4, public_v4, public_v6"⟩

/-- Where no kind is named that servers have, private addresses of version 4 are taken, and all that
happens is that a record says so. -/
theorem writes_addressKind {ε : Type} {c : Config}
    (h : ∀ v, c.get? "address_type" = some v → v ∉ ["private_v4", "public_v4", "public_v6"]) :
    (addressKind c : Call ε AddressKind).Writes .privateV4 [notice (c.getD "address_type")] := by
  unfold addressKind Config.getD Config.nonempty? notice
  cases hasked : c.get? "address_type" with
  | none => exact writes_log_pure _ _ _ _
  | some v =>
    by_cases hempty : v = ""
    · subst hempty
      exact writes_log_pure _ _ _ _
    · have hfilter : (some v).filter (· ≠ "") = some v := by simp [hempty]
      rw [hfilter, Option.getD_some, if_neg hempty]
      cases hkind : AddressKind.ofName? v with
      | none =>
        simp only [hkind]
        exact writes_log_pure _ _ _ _
      | some kind =>
        obtain rfl : v = kind.name := AddressKind.ofName?_eq_some_iff.mp hkind
        have hnot := h _ hasked
        cases kind with
        | privateV6 => exact writes_log_pure _ _ _ _
        | privateV4 | publicV4 | publicV6 => exact absurd (by decide) hnot

theorem addressKind_eq {ε : Type} {c : Config} {kind : AddressKind} (hkind : kind ≠ .privateV6)
    (h : c.get? "address_type" = some kind.name) :
    (addressKind c : Call ε AddressKind) = pure kind := by
  have hnonempty : c.nonempty? "address_type" = some kind.name := by
    rw [Config.nonempty?, h]
    cases kind <;> rfl
  rw [addressKind, hnonempty]
  cases kind with
  | privateV6 => exact absurd rfl hkind
  | privateV4 | publicV4 | publicV6 => rfl

theorem run_find_of_fallback (baseUrl : String) (userAgent : Option String) (world : World)
    {c : Config} (hprovider : c.provider = some providerName)
    (h : ∀ v, c.get? "address_type" = some v → v ∉ ["private_v4", "public_v4", "public_v6"])
    (logger : Logger) :
    let plain := (find baseUrl userAgent world (c.insert "address_type" "private_v4")).run logger
    (find baseUrl userAgent world c).run logger =
      ⟨plain.result, logger.taken [notice (c.getD "address_type")] ++ plain.log, plain.events⟩ := by
  intro plain
  have hsame := c.sameBut_insert "address_type" "private_v4"
  have hplain : find baseUrl userAgent world (c.insert "address_type" "private_v4") =
      searchFor .privateV4 baseUrl userAgent world c := by
    have hnamed : Table.get? (c.insert "address_type" "private_v4") "address_type" =
        some AddressKind.privateV4.name := by
      rw [Table.get?_insert, if_pos rfl]
      rfl
    rw [find_eq_searchFor _ _ _ ((hsame _ (by decide)).trans hprovider),
      addressKind_eq (by decide) hnamed, pure_bind, searchFor_congr hsame]
  rw [find_eq_searchFor _ _ _ hprovider, run_bind_ok (writes_addressKind h logger), ← hplain]
  rfl

/-! The addresses -/

/-- The address of a kind that a server offers. -/
inductive Server.Offers (s : Server) : AddressKind → String → Prop
  /-- That in the first of its private networks. -/
  | privateV4 {ip : String} {rest : List String} (first : s.privateIps = ip :: rest) :
      s.Offers .privateV4 ip
  | publicV4 {ip : String} (unblocked : s.ipv4 = some ⟨ip, false⟩) : s.Offers .publicV4 ip
  /-- What stands before the first slash of its network. -/
  | publicV6 {network ip : String} {rest : List Char} (unblocked : s.ipv6 = some ⟨network, false⟩)
      (begins : network.toList = ip.toList ++ rest) (first : '/' ∉ ip.toList)
      (ends : ∀ c ∈ rest.head?, c = '/') : s.Offers .publicV6 ip

theorem usable_eq_some_iff {entry : Option PublicIp} {ip : String} :
    usable entry = some ip ↔ entry = some ⟨ip, false⟩ := by
  rcases entry with _ | ⟨text, blocked⟩
  · simp [usable]
  · cases blocked <;> simp [usable]

theorem offers_iff {kind : AddressKind} (hkind : kind ≠ .privateV6) {s : Server} {ip : String} :
    s.Offers kind ip ↔ s.address? kind = some ip := by
  cases kind with
  | privateV6 => exact absurd rfl hkind
  | privateV4 =>
    rw [Server.address?, List.head?_eq_some_iff]
    constructor
    · rintro ⟨first⟩
      exact ⟨_, first⟩
    · rintro ⟨rest, first⟩
      exact .privateV4 first
  | publicV4 =>
    rw [Server.address?, usable_eq_some_iff]
    constructor
    · rintro ⟨unblocked⟩
      assumption
    · exact .publicV4
  | publicV6 =>
    rw [Server.address?, Option.map_eq_some_iff]
    constructor
    · rintro (_ | _ | ⟨unblocked, begins, first, ends⟩)
      rename_i network rest
      have hbefore : Text.before '/' network.toList = ip.toList :=
        Text.before_eq_iff.mpr ⟨rest, begins, first, ends⟩
      exact ⟨network, usable_eq_some_iff.mpr unblocked, by rw [hbefore, String.ofList_toList]⟩
    · rintro ⟨network, hnetwork, hip⟩
      have hbefore : Text.before '/' network.toList = ip.toList := by
        rw [← hip, String.toList_ofList]
      obtain ⟨rest, begins, first, ends⟩ := Text.before_eq_iff.mp hbefore
      exact .publicV6 (usable_eq_some_iff.mp hnetwork) begins first ends

/-- Of the servers listed, in their order, each brings the address that it offers, and one that is
somewhere else brings none. -/
theorem exists_picked {c : Config} {kind : AddressKind} (hkind : kind ≠ .privateV6)
    (h : c.get? "address_type" = some kind.name) (listed : List Server) :
    ∃ picked : List (Option String),
      List.Forall₂ (fun s found => ∀ ip, found = some ip ↔
        (∀ place ∈ c.nonempty? "location", s.location = place) ∧ s.Offers kind ip) listed picked ∧
      addresses c listed = picked.reduceOption := by
  have hkindOf : kindOf c = kind := by
    have hquiet := quiet_addressKind (ε := Unit) c .discard
    rw [addressKind_eq hkind h] at hquiet
    exact (Except.ok.inj (congrArg Prod.fst hquiet)).symm
  let wanted (s : Server) : Bool := (c.nonempty? "location").all (s.location = ·)
  refine ⟨listed.map fun s => if wanted s then s.address? kind else none, ?_, ?_⟩
  · rw [List.forall₂_map_right_iff, List.forall₂_same]
    intro s _ ip
    have hwanted : wanted s = true ↔ ∀ place ∈ c.nonempty? "location", s.location = place := by
      simp only [wanted]
      cases c.nonempty? "location" <;> simp
    rw [offers_iff hkind, ← hwanted, Option.ite_none_right_eq_some]
  · rw [addresses, hkindOf, List.reduceOption, List.filterMap_map, List.filterMap_filter]
    rfl

theorem result_find {baseUrl token : String} {userAgent : Option String} {world : World}
    {c : Config} {listed : List Server} {logger : Logger}
    (hprovider : c.provider = some providerName)
    (htoken : c.apiToken world.env "HCLOUD_TOKEN" = .ok token)
    (hlisted : ((servers ⟨baseUrl, userAgent, token⟩ (c.getD "label_selector") world.web).run
      logger).result = .ok listed) :
    ((find baseUrl userAgent world c).run logger).result = .ok (addresses c listed) := by
  have hagent : userAgent.all Http.isHeaderText = true := by
    by_contra hagent
    have hrefuses : (servers ⟨baseUrl, userAgent, token⟩ (c.getD "label_selector")
        world.web).Refuses := Http.Client.refuses_connect hagent _
    obtain ⟨e, he⟩ := hrefuses
    have hfailed := congrArg Prod.fst (he logger)
    exact nomatch hfailed.symm.trans hlisted
  have hemploys : c.Employs world.env providerName "HCLOUD_TOKEN" ⟨baseUrl, userAgent, token⟩ :=
    ⟨hprovider, htoken, hagent⟩
  have hresult := congrArg Prod.fst (outcome_find hemploys logger)
  simp only [outcome, hlisted] at hresult
  exact hresult

/-- The kind of address that a search is for, and what it takes from each server. Without a kind
that servers have, a search ends and asks just as one for private addresses of version 4 does; all
that it does beyond that is to say so in a record before all others. From the servers that were
listed, in their order, a search for one of the three kinds takes the address that each of them
offers, and none from servers somewhere else. -/
theorem find_takes_offered (baseUrl : String) (userAgent : Option String) (world : World)
    (c : Config) (hprovider : c.provider = some "hcloud") :
    ((∀ v, c.get? "address_type" = some v → v ∉ ["private_v4", "public_v4", "public_v6"]) →
      ∃ told : Record, told.level = (if c.getD "address_type" = "" then .info else .warn) ∧
        told.target = target ∧ ∀ logger,
          let plain := (find baseUrl userAgent world
            (c.insert "address_type" "private_v4")).run logger
          (find baseUrl userAgent world c).run logger =
            ⟨plain.result, logger.taken [told] ++ plain.log, plain.events⟩) ∧
    ∀ kind ∈ [AddressKind.privateV4, .publicV4, .publicV6],
      c.get? "address_type" = some kind.name → ∀ listed : List Server,
        ∃ picked : List (Option String),
          List.Forall₂ (fun s found => ∀ ip, found = some ip ↔
            (∀ place ∈ c.nonempty? "location", s.location = place) ∧ s.Offers kind ip)
              listed picked ∧
          addresses c listed = picked.reduceOption ∧
          ∀ token logger, c.apiToken world.env "HCLOUD_TOKEN" = .ok token →
            ((servers ⟨baseUrl, userAgent, token⟩ (c.getD "label_selector") world.web).run
              logger).result = .ok listed →
            ((find baseUrl userAgent world c).run logger).result = .ok picked.reduceOption := by
  refine ⟨fun hnone => ?_, fun kind hkind hnamed listed => ?_⟩
  · refine ⟨notice (c.getD "address_type"), ?_, ?_, fun logger => ?_⟩
    · unfold notice
      split <;> rfl
    · unfold notice
      split <;> rfl
    · exact run_find_of_fallback baseUrl userAgent world hprovider hnone logger
  · have hhas : kind ≠ .privateV6 := by
      rintro rfl
      simp at hkind
    obtain ⟨picked, hpicked, haddresses⟩ := exists_picked hhas hnamed listed
    refine ⟨picked, hpicked, haddresses, fun token logger htoken hlisted => ?_⟩
    rw [← haddresses]
    exact result_find hprovider htoken hlisted

/-- Servers have no private addresses of version 6, so private ones of version 4 are taken. For
public ones of version 6, one server offers the address of its network, one is blocked, and one is
elsewhere. -/
theorem find_takes_offered_sample :
    let c : Config := .ofList [("provider", "hcloud"), ("api_token", "t"),
      ("address_type", "private_v6")]
    let named : Config := .ofList [("provider", "hcloud"), ("api_token", "t"),
      ("address_type", "public_v6"), ("location", "fsn1")]
    let world : World := { World.offline [] with web := [.response 200 <|
      "[[[1,\"a\",[null,[\"2001:db8::/64\",false]],[],[[\"fsn1\"]]]," ++
      "[2,\"b\",[null,[\"2001:db9::/64\",true]],[],[[\"fsn1\"]]]," ++
      "[3,\"c\",[null,[\"2001:dba::/64\",false]],[],[[\"nbg1\"]]]],[[null]]]"] }
    let search (c : Config) := (find "http://[::1]:8080" none world c).run .everything
    (∃ told : Record, told.level = .warn ∧
      let plain := search (c.insert "address_type" "private_v4")
      search c = ⟨plain.result, told :: plain.log, plain.events⟩) ∧
    (search named).result = .ok ["2001:db8::"] := by
  intro c named world search
  have hprovider : c.provider = some "hcloud" := by decide
  have hkind : c.get? "address_type" = some "private_v6" := by decide
  have hnone : ∀ v, c.get? "address_type" = some v →
      v ∉ ["private_v4", "public_v4", "public_v6"] := by
    intro v hv
    obtain rfl := Option.some.inj (hkind.symm.trans hv)
    decide
  have hprovider' : named.provider = some "hcloud" := by decide
  have hkind' : named.get? "address_type" = some AddressKind.publicV6.name := by decide
  have htoken : named.apiToken world.env "HCLOUD_TOKEN" = .ok "t" := by decide
  let listed : List Server := [⟨1, "a", none, some ⟨"2001:db8::/64", false⟩, [], "fsn1"⟩,
    ⟨2, "b", none, some ⟨"2001:db9::/64", true⟩, [], "fsn1"⟩,
    ⟨3, "c", none, some ⟨"2001:dba::/64", false⟩, [], "nbg1"⟩]
  have hlisted : ((servers ⟨"http://[::1]:8080", none, "t"⟩ (named.getD "label_selector")
      world.web).run .everything).result = .ok listed := by decide +kernel
  obtain ⟨told, hlevel, -, hrun⟩ :=
    (find_takes_offered "http://[::1]:8080" none world c hprovider).1 hnone
  obtain ⟨picked, -, haddresses, hresult⟩ :=
    (find_takes_offered "http://[::1]:8080" none world named hprovider').2 .publicV6 (by decide)
      hkind' listed
  have hwarn : told.level = .warn := by
    rw [hlevel]
    decide
  have hfound : addresses named listed = ["2001:db8::"] := by decide +kernel
  refine ⟨⟨told, hwarn, ?_⟩, ?_⟩
  · simp only [search, hrun .everything, Logger.taken_everything]
    rfl
  · rw [← hfound, haddresses]
    exact hresult "t" .everything htoken hlisted

end NodeDiscovery.Hetzner
