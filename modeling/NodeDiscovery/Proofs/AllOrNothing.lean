import NodeDiscovery.Proofs.DigitalOcean.Search
import NodeDiscovery.Proofs.Ec2.Search
import NodeDiscovery.Proofs.Hetzner.Search
import NodeDiscovery.Proofs.Linode.Search
import NodeDiscovery.Proofs.Vultr.Search
import NodeDiscovery.World.Offline

/-! Searches are all or nothing: the first request without an answer ends them in its failure, and a
search whose requests are all answered succeeds, whatever it finds. -/
namespace NodeDiscovery

/-- The search of each provider is a session with its service, which starts with the question for
the first page. Each answer leads to the next question, that for the page after it or, behind the
listing of instances, for the addresses of the first of them, then of the next; the search puts just
these. It stops at the first fault and fails with it, or else succeeds. -/
theorem find_all_or_nothing (world : World) (c : Config) (logger : Logger) :
    (∀ client first rest,
      c.Employs world.env DigitalOcean.providerName "DIGITALOCEAN_TOKEN" client →
      DigitalOcean.Requires c (first :: rest) →
      ∃ asked, (DigitalOcean.service client first).AllOrNothing
        (fun _ => Http.Fault.message) world.web 1 asked
        ((DigitalOcean.find client.baseUrl client.userAgent world c).outcome logger)) ∧
    (∀ client, c.Employs world.env Hetzner.providerName "HCLOUD_TOKEN" client →
      ∃ asked, (Hetzner.service client (c.getD "label_selector")).AllOrNothing
        (fun _ => Http.Fault.message) world.web 1 asked
        ((Hetzner.find client.baseUrl client.userAgent world c).outcome logger)) ∧
    (∀ client kind, c.Employs world.env Linode.providerName "LINODE_TOKEN" client →
      c.parsed "address_type" AddressKind.read default = .ok kind →
      ∃ asked, (Linode.service client kind
          (Linode.instanceFilter (c.getD "region") (c.getD "tag_name"))).AllOrNothing
        Linode.Question.tell world.web (.page 1 []) asked
        ((Linode.find client.baseUrl client.userAgent world c).outcome logger)) ∧
    (∀ client, c.Employs world.env Vultr.providerName "VULTR_API_KEY" client →
      ∃ asked, (Vultr.service client (c.getD "tag_name")).AllOrNothing
        (fun _ => Http.Fault.message) world.web "" asked
        ((Vultr.find client.baseUrl client.userAgent world c).outcome logger)) ∧
    ∀ userAgent q, Ec2.Poses c world.env q →
      ∃ asked, (Ec2.service (Ec2.credentialsOf c world.env) q).AllOrNothing
        (fun _ fault => "DescribeInstances failed: " ++ fault.message) world.ec2 none asked
        ((Ec2.find userAgent world c).outcome logger) := by
  refine ⟨?_, ?_, ?_, ?_, ?_⟩
  · intro client first rest h hrequires
    exact DigitalOcean.allOrNothing_find h hrequires logger
  · intro client h
    exact Hetzner.allOrNothing_find h logger
  · intro client kind h hkind
    exact Linode.allOrNothing_find h hkind logger
  · intro client h
    exact Vultr.allOrNothing_find h logger
  · intro userAgent q h
    exact Ec2.allOrNothing_find h userAgent logger

set_option maxRecDepth 4000 in
/-- Where the server hangs up, at once or at a later question, each search fails with that, and
where it goes on to the end the search succeeds. -/
theorem find_all_or_nothing_closed :
    let client : Http.Client := ⟨"http://[::1]:8080", none, "t"⟩
    let config (name : String) : Config := .ofList [("provider", name), ("api_token", "t"),
      ("address_type", "private_v6"), ("tag_name", "a"), ("tag_key", "k"), ("tag_value", "v"),
      ("access_key_id", "i"), ("secret_access_key", "s")]
    let env := (World.offline []).env
    let web (replies : List Http.Reply) : World := { World.offline [] with web := replies }
    let ec2 (replies : List Ec2.Reply) : World := { World.offline [] with ec2 := replies }
    let fails (o : Except ProviderError (List String) × List Event) (text : String) (n : Nat) :=
      o.1 = .error (.requestFailed text) ∧ o.2.length = n
    let succeeds (o : Except ProviderError (List String) × List Event) (n : Nat) :=
      (∃ found, o.1 = .ok found) ∧ o.2.length = n
    ((config "digitalocean").Employs env DigitalOcean.providerName "DIGITALOCEAN_TOKEN" client ∧
      DigitalOcean.Requires (config "digitalocean") ["a"] ∧
      let droplets : Http.Reply := .response 200
        "[[[7,\"d\",[[[\"10.0.0.1\",\"private\"]]],[\"lon\"],[\"a\"]]]]"
      let find replies := (DigitalOcean.find client.baseUrl none (web replies)
        (config "digitalocean")).outcome .discard
      fails (find [.closed]) (Http.Fault.lost
        "http://[::1]:8080/v2/droplets?page=1&per_page=200&tag_name=a").message 1 ∧
      succeeds (find [droplets]) 1) ∧
    ((config "hcloud").Employs env Hetzner.providerName "HCLOUD_TOKEN" client ∧
      let servers (next : String) : Http.Reply := .response 200
        ("[[[1,\"a\",[null,null],[[\"10.0.0.1\"]],[[\"fsn1\"]]]],[[" ++ next ++ "]]]")
      let find replies :=
        (Hetzner.find client.baseUrl none (web replies) (config "hcloud")).outcome .discard
      fails (find [servers "2", .closed]) (Http.Fault.lost
        "http://[::1]:8080/v1/servers?status=running&page=2&per_page=50").message 2 ∧
      succeeds (find [servers "2", servers "null"]) 2) ∧
    ((config "linode").Employs env Linode.providerName "LINODE_TOKEN" client ∧
      (config "linode").parsed "address_type" AddressKind.read default = .ok .privateV6 ∧
      let instances : Http.Reply :=
        .response 200 "[[[7,\"a\",[],null],[8,\"b\",[],null]],1,1]"
      let ips : Http.Reply := .response 200 "[[[\"fe80::1\"]]]"
      let find replies :=
        (Linode.find client.baseUrl none (web replies) (config "linode")).outcome .discard
      fails (find [instances, ips, .closed]) ((Linode.Question.ips 8 []).tell
        (.lost "http://[::1]:8080/v4/linode/instances/8/ips")) 3 ∧
      succeeds (find [instances, ips, ips]) 3) ∧
    ((config "vultr").Employs env Vultr.providerName "VULTR_API_KEY" client ∧
      let instances (next : String) : Http.Reply := .response 200
        ("[[[\"i\",\"a\",\"lon\",\"10.0.0.1\"]],[[\"" ++ next ++ "\"]]]")
      let find replies :=
        (Vultr.find client.baseUrl none (web replies) (config "vultr")).outcome .discard
      fails (find [instances "n", .closed]) (Http.Fault.lost
        "http://[::1]:8080/v2/instances?per_page=500&tag=a&cursor=n").message 2 ∧
      succeeds (find [instances "n", instances ""]) 2) ∧
    Ec2.Poses (config "aws") env ⟨"k", "v", .privateV4, .fallback⟩ ∧
      let reservations (next : Option String) : Ec2.Reply := .page ⟨none, next⟩
      let find replies := (Ec2.find none (ec2 replies) (config "aws")).outcome .discard
      fails (find [reservations (some "n"), .closed])
        ("DescribeInstances failed: " ++ Ec2.Fault.lost.message) 2 ∧
      succeeds (find [reservations (some "n"), reservations none]) 2 := by
  intro client config env web ec2 fails succeeds
  refine ⟨?_, ?_, ?_, ?_, ?_⟩
  · have h : (config "digitalocean").Employs env DigitalOcean.providerName "DIGITALOCEAN_TOKEN"
        client := ⟨by decide, by decide, rfl⟩
    have hrequires : DigitalOcean.Requires (config "digitalocean") ["a"] :=
      DigitalOcean.tags_eq_ok_iff.mp (by decide)
    refine ⟨h, hrequires, ?_⟩
    intro droplets find
    have hrun (replies : List Http.Reply) :=
      (find_all_or_nothing (web replies) _ .discard).1 client "a" [] h hrequires
    obtain ⟨asked, hall⟩ := hrun [.closed]
    have hlost : find [.closed] = _ := hall.of_fault [] 1
      (.lost "http://[::1]:8080/v2/droplets?page=1&per_page=200&tag_name=a") rfl nofun
      (by decide +kernel)
    obtain ⟨asked, hall⟩ := hrun [droplets]
    obtain ⟨hfound, hevents⟩ := hall.of_answered [1] rfl (by decide +kernel)
    refine ⟨⟨congrArg Prod.fst hlost, ?_⟩, hfound, (congrArg List.length hevents).trans ?_⟩
    · rw [hlost]
      decide +kernel
    · decide +kernel
  · have h : (config "hcloud").Employs env Hetzner.providerName "HCLOUD_TOKEN" client :=
      ⟨by decide, by decide, rfl⟩
    have hselector : (config "hcloud").getD "label_selector" = "" := by decide
    refine ⟨h, ?_⟩
    intro servers find
    have hrun (replies : List Http.Reply) :=
      (find_all_or_nothing (web replies) _ .discard).2.1 client h
    rw [hselector] at hrun
    obtain ⟨asked, hall⟩ := hrun [servers "2", .closed]
    have hlost : find [servers "2", .closed] = _ := hall.of_fault [1] 2
      (.lost "http://[::1]:8080/v1/servers?status=running&page=2&per_page=50") rfl
      (by decide +kernel) (by decide +kernel)
    obtain ⟨asked, hall⟩ := hrun [servers "2", servers "null"]
    obtain ⟨hfound, hevents⟩ := hall.of_answered [1, 2] rfl (by decide +kernel)
    refine ⟨⟨congrArg Prod.fst hlost, ?_⟩, hfound, (congrArg List.length hevents).trans ?_⟩
    · rw [hlost]
      decide +kernel
    · decide +kernel
  · have h : (config "linode").Employs env Linode.providerName "LINODE_TOKEN" client :=
      ⟨by decide, by decide, rfl⟩
    have hkind : (config "linode").parsed "address_type" AddressKind.read default =
        .ok .privateV6 := by decide
    have hregion : (config "linode").getD "region" = "" := by decide
    have htag : (config "linode").getD "tag_name" = "a" := by decide
    refine ⟨h, hkind, ?_⟩
    intro instances ips find
    have hrun (replies : List Http.Reply) :=
      (find_all_or_nothing (web replies) _ .discard).2.2.1 client .privateV6 h hkind
    rw [hregion, htag] at hrun
    obtain ⟨asked, hall⟩ := hrun [instances, ips, .closed]
    have hlost : find [instances, ips, .closed] = _ := hall.of_fault [.page 1 [], .ips 7 [8]]
      (.ips 8 []) (.lost "http://[::1]:8080/v4/linode/instances/8/ips") rfl
      (by decide +kernel) (by decide +kernel)
    obtain ⟨asked, hall⟩ := hrun [instances, ips, ips]
    obtain ⟨hfound, hevents⟩ := hall.of_answered [.page 1 [], .ips 7 [8], .ips 8 []] rfl
      (by decide +kernel)
    refine ⟨⟨congrArg Prod.fst hlost, ?_⟩, hfound, (congrArg List.length hevents).trans ?_⟩
    · rw [hlost]
      decide +kernel
    · decide +kernel
  · have h : (config "vultr").Employs env Vultr.providerName "VULTR_API_KEY" client :=
      ⟨by decide, by decide, rfl⟩
    have htag : (config "vultr").getD "tag_name" = "a" := by decide
    refine ⟨h, ?_⟩
    intro instances find
    have hrun (replies : List Http.Reply) :=
      (find_all_or_nothing (web replies) _ .discard).2.2.2.1 client h
    rw [htag] at hrun
    obtain ⟨asked, hall⟩ := hrun [instances "n", .closed]
    have hlost : find [instances "n", .closed] = _ := hall.of_fault [""] "n"
      (.lost "http://[::1]:8080/v2/instances?per_page=500&tag=a&cursor=n") rfl
      (by decide +kernel) (by decide +kernel)
    obtain ⟨asked, hall⟩ := hrun [instances "n", instances ""]
    obtain ⟨hfound, hevents⟩ := hall.of_answered ["", "n"] rfl (by decide +kernel)
    refine ⟨⟨congrArg Prod.fst hlost, ?_⟩, hfound, (congrArg List.length hevents).trans ?_⟩
    · rw [hlost]
      decide +kernel
    · decide +kernel
  · have h : Ec2.Poses (config "aws") env ⟨"k", "v", .privateV4, .fallback⟩ :=
      ⟨by decide, by decide, by decide, by decide, by decide⟩
    have hcredentials (replies : List Ec2.Reply) :
        Ec2.credentialsOf (config "aws") (ec2 replies).env = some ⟨"i", "s", none⟩ :=
      show Ec2.credentialsOf (config "aws") env = _ by decide
    refine ⟨h, ?_⟩
    intro reservations find
    have hrun (replies : List Ec2.Reply) :=
      (find_all_or_nothing (ec2 replies) _ .discard).2.2.2.2 none _ h
    simp only [hcredentials] at hrun
    obtain ⟨asked, hall⟩ := hrun [reservations (some "n"), .closed]
    have hlost : find [reservations (some "n"), .closed] = _ :=
      hall.of_fault [none] (some "n") .lost rfl (by decide) rfl
    obtain ⟨asked, hall⟩ := hrun [reservations (some "n"), reservations none]
    obtain ⟨hfound, hevents⟩ := hall.of_answered [none, some "n"] rfl (by decide)
    refine ⟨⟨congrArg Prod.fst hlost, ?_⟩, hfound, congrArg List.length hevents⟩
    rw [hlost]
    rfl

end NodeDiscovery
