import NodeDiscovery.Proofs.Inquiry
import NodeDiscovery.Proofs.Token

/-! What a search tells of its findings. All it tells after the first response is of instances and
of their addresses, in the order in which these are found. -/
namespace NodeDiscovery

open Call

def Text.Mentions (s part : String) : Prop := ∃ before after, s = before ++ part ++ after

theorem Text.mentions_append_right (s part : String) : Mentions (s ++ part) part :=
  ⟨s, "", by rw [String.append_empty]⟩

theorem Text.Mentions.append {s part : String} (h : Mentions s part) (t : String) :
    Mentions (s ++ t) part := by
  obtain ⟨before, after, rfl⟩ := h
  exact ⟨before, after ++ t, by simp only [String.append_assoc]⟩

/-- An address that was found, with what the instance it belongs to is called. -/
structure Finding where
  identity : List String
  address : String

def Record.TellsOf (r : Record) (f : Finding) : Prop :=
  Text.Mentions r.text f.address ∧ ∀ name ∈ f.identity, Text.Mentions r.text name

theorem Record.tellsOf_pair {r : Record} {name id address : String}
    (haddress : Text.Mentions r.text address) (hname : Text.Mentions r.text name)
    (hid : Text.Mentions r.text id) : r.TellsOf ⟨[name, id], address⟩ := by
  refine ⟨haddress, fun other hother => ?_⟩
  simp only [List.mem_cons, List.not_mem_nil, or_false] at hother
  obtain rfl | rfl := hother
  · exact hname
  · exact hid

/-- The records tell of these findings one by one, where details do not count. -/
def Tells (told : List Record) (findings : List Finding) : Prop :=
  List.Forall₂ Record.TellsOf (told.filter (·.level = .info)) findings

namespace Tells
variable {told more : List Record} {findings others : List Finding}

theorem append (h : Tells told findings) (h' : Tells more others) :
    Tells (told ++ more) (findings ++ others) := by
  unfold Tells
  rw [List.filter_append]
  exact List.rel_append h h'

theorem cons_debug {target text : String} (h : Tells told findings) :
    Tells (⟨.debug, target, text⟩ :: told) findings := h

theorem flatMap {ι : Type} {told : ι → List Record} {findings : ι → List Finding}
    (h : ∀ i, Tells (told i) (findings i)) (items : List ι) :
    Tells (items.flatMap told) (items.flatMap findings) := by
  induction items with
  | nil => exact .nil
  | cons i rest ih =>
    rw [List.flatMap_cons, List.flatMap_cons]
    exact (h i).append ih

theorem map {target : String} {text : String → String} {identity : List String}
    (h : ∀ address, Record.TellsOf ⟨.info, target, text address⟩ ⟨identity, address⟩)
    (addresses : List String) :
    Tells (addresses.map fun address => ⟨.info, target, text address⟩)
      (addresses.map (Finding.mk identity)) := by
  have hone (address : String) :
      Tells [⟨.info, target, text address⟩] [⟨identity, address⟩] := .cons (h address) .nil
  rw [List.map_eq_flatMap, List.map_eq_flatMap]
  exact flatMap hone addresses

end Tells

/-- The log of a run tells exactly what was found. What it has beyond that of the run whose first
request gets no response tells of the findings one by one, and ends with the list of all of them. -/
structure Discloses (run mute : Trace ProviderError (List String)) (target closing : String)
    (findings : List Finding) (told : List Record) : Prop where
  result : run.result = .ok (findings.map Finding.address)
  log : run.log = mute.log ++ told ++
    [⟨.debug, target, closing ++ Text.quotedList (findings.map Finding.address)⟩]
  infos : Tells told findings
  unanswered : ∃ e event, mute.result = .error e ∧ mute.events = [event] ∧
    run.events.head? = some event

/-- A search that succeeds is settled and gets an answer. If telling of that tells of these
findings, so does the search. -/
theorem Search.discloses_find {s : Search} {world : World} {c : Config} {addresses : List String}
    (h : ((s.find world c).run .everything).result = .ok addresses)
    (hasks : ∀ plan, Inquires (s.ask world plan) (s.ask world.mute plan)) :
    ∃ plan found, c.provider = some s.name ∧ (s.settle world.env c).Quiet plan ∧
      ((s.ask world plan).run .everything).result = .ok found ∧
      ((s.tell plan found).run .everything).result = .ok addresses ∧
      ∀ target closing findings told events,
        (s.tell plan found).run .everything = ⟨.ok (findings.map Finding.address),
          told ++ [⟨.debug, target, closing ++ Text.quotedList (findings.map Finding.address)⟩],
          events⟩ →
        Tells told findings → Discloses ((s.find world c).run .everything)
          ((s.find world.mute c).run .everything) target closing findings told := by
  obtain ⟨hprovider, plan, found, hplan, hfound, htells⟩ := of_find_eq_ok h
  refine ⟨plan, found, hprovider, hplan, hfound, htells, ?_⟩
  intro target closing findings told events htell htold
  have hreports : (s.find world c).Reports (s.find world.mute c) (findings.map Finding.address)
      (told ++ [⟨.debug, target, closing ++ Text.quotedList (findings.map Finding.address)⟩]) :=
    .ofExcept_bind (Config.expectProvider_eq_ok_iff.mpr hprovider) (.quiet_bind hplan
      (.of_inquires (hasks plan) hfound (by rw [htell]) (by rw [htell]) _))
  exact ⟨hreports.result, by rw [hreports.log, List.append_assoc], htold, hreports.unanswered⟩

theorem WebSearch.discloses_find {w : WebSearch} {baseUrl : String} {userAgent : Option String}
    {world : World} {c : Config} {addresses : List String}
    (h : (((w.toSearch baseUrl userAgent).find world c).run .everything).result = .ok addresses)
    (hasks : ∀ client options, Inquires (w.ask client options world.web)
      (w.ask client options world.mute.web)) :
    ∃ token options found, c.apiToken world.env w.tokenVariable = .ok token ∧
      (w.options c).Quiet options ∧
      ((w.ask ⟨baseUrl, userAgent, token⟩ options world.web).run .everything).result = .ok found ∧
      ((w.tell ⟨baseUrl, userAgent, token⟩ options found).run .everything).result = .ok addresses ∧
      ∀ target closing findings told events,
        (w.tell ⟨baseUrl, userAgent, token⟩ options found).run .everything =
          ⟨.ok (findings.map Finding.address),
            told ++ [⟨.debug, target, closing ++ Text.quotedList (findings.map Finding.address)⟩],
            events⟩ →
        Tells told findings →
        Discloses (((w.toSearch baseUrl userAgent).find world c).run .everything)
          (((w.toSearch baseUrl userAgent).find world.mute c).run .everything) target closing
          findings told := by
  obtain ⟨plan, found, -, hplan, hfound, htells, hdiscloses⟩ := Search.discloses_find h
    fun plan => hasks plan.1 plan.2
  obtain ⟨token, htoken, hclient, hoptions⟩ := of_quiet_settle hplan
  obtain ⟨client, options⟩ := plan
  obtain rfl : client = ⟨baseUrl, userAgent, token⟩ := hclient
  exact ⟨token, options, found, htoken, hoptions, hfound, htells, hdiscloses⟩

/-- Instances of Linode with the link-local addresses that the replies to the questions for them
bring. -/
inductive Linode.LinkLocals (client : Http.Client) :
    List Instance → List Http.Reply → List (Instance × Option String) → Prop
  | nil (replies : List Http.Reply) : LinkLocals client [] replies []
  | cons {i : Instance} {rest : List Instance} {replies : List Http.Reply} {address : Option String}
      {found : List (Instance × Option String)}
      (answered : ((linkLocal client i.id (replies.headD .notFound)).run .everything).result =
        .ok address)
      (more : LinkLocals client rest replies.tail found) :
      LinkLocals client (i :: rest) replies ((i, address) :: found)

/-- What a search finds, in the order in which it lists instances. -/
inductive WebService.Finds (baseUrl : String) (userAgent : Option String) (world : World)
    (c : Config) : WebService → List Finding → Prop
  | digitalOcean {first : String} {rest : List String} {token : String}
      {listed : List DigitalOcean.Droplet} (tags : DigitalOcean.tags c = .ok (first, rest))
      (authorized : c.apiToken world.env "DIGITALOCEAN_TOKEN" = .ok token)
      (lists : ((DigitalOcean.droplets ⟨baseUrl, userAgent, token⟩ first world.web).run
        .everything).result = .ok listed) :
      Finds baseUrl userAgent world c .digitalOcean
        ((listed.filter
          (DigitalOcean.Droplet.isWanted (c.nonempty? "region") (first :: rest))).flatMap
          fun d => d.privateAddresses.map (Finding.mk [d.name, toString d.id]))
  | hetzner {token : String} {listed : List Hetzner.Server}
      (authorized : c.apiToken world.env "HCLOUD_TOKEN" = .ok token)
      (lists : ((Hetzner.servers ⟨baseUrl, userAgent, token⟩ (c.getD "label_selector")
        world.web).run .everything).result = .ok listed) :
      Finds baseUrl userAgent world c .hetzner
        ((listed.filter fun s => (c.nonempty? "location").all (s.location = ·)).flatMap
          fun s => (s.address? (Hetzner.kindOf c)).toList.map (Finding.mk [s.name, toString s.id]))
  | linode {kind : AddressKind} {token : String} {listed : List Linode.Instance}
      {later : List Http.Reply}
      (asked : c.parsed "address_type" AddressKind.read default = .ok kind)
      (inListing : kind ≠ .privateV6)
      (authorized : c.apiToken world.env "LINODE_TOKEN" = .ok token)
      (lists : ((Linode.instances ⟨baseUrl, userAgent, token⟩
        (Linode.instanceFilter (c.getD "region") (c.getD "tag_name")) world.web).run
          .everything).result = .ok (listed, later)) :
      Finds baseUrl userAgent world c .linode
        (listed.flatMap fun i => (i.addresses kind).map (Finding.mk [i.label, toString i.id]))
  | linodeLocal {token : String} {listed : List Linode.Instance} {later : List Http.Reply}
      {found : List (Linode.Instance × Option String)}
      (asked : c.parsed "address_type" AddressKind.read default = .ok .privateV6)
      (authorized : c.apiToken world.env "LINODE_TOKEN" = .ok token)
      (lists : ((Linode.instances ⟨baseUrl, userAgent, token⟩
        (Linode.instanceFilter (c.getD "region") (c.getD "tag_name")) world.web).run
          .everything).result = .ok (listed, later))
      (locals : Linode.LinkLocals ⟨baseUrl, userAgent, token⟩ listed later found) :
      Finds baseUrl userAgent world c .linode
        (found.flatMap fun (i, address) =>
          address.toList.map (Finding.mk [i.label, toString i.id]))
  | vultr {token : String} {listed : List Vultr.Instance}
      (authorized : c.apiToken world.env "VULTR_API_KEY" = .ok token)
      (lists : ((Vultr.instances ⟨baseUrl, userAgent, token⟩ (c.getD "tag_name")
        world.web).run .everything).result = .ok listed) :
      Finds baseUrl userAgent world c .vultr
        ((listed.filter (Vultr.Instance.isWanted (c.getD "region"))).map
          fun i => ⟨[i.label, i.id], i.internalIp⟩)

variable {baseUrl : String} {userAgent : Option String} {world : World} {c : Config}
  {addresses : List String}

namespace DigitalOcean

theorem inquires_droplets (client : Http.Client) (tag : String) (world : World) :
    Inquires (droplets client tag world.web) (droplets client tag world.mute.web) :=
  .ofExcept_bind fun _ => (Listing.inquires_pages (fun _ => Http.inquires_fetch _ _) 1
    world.web).bind (fun _ => silent_ofExcept _) _

theorem tells_records (d : Droplet) :
    Tells d.records (d.privateAddresses.map (Finding.mk [d.name, toString d.id])) := by
  refine Tells.map (fun _ => Record.tellsOf_pair ?_ ?_ ?_) _ <;>
    apply_rules [Text.mentions_append_right, Text.Mentions.append]

theorem discloses_find
    (h : ((find baseUrl userAgent world c).run .everything).result = .ok addresses) :
    ∃ findings told, WebService.Finds baseUrl userAgent world c .digitalOcean findings ∧
      Discloses ((find baseUrl userAgent world c).run .everything)
        ((find baseUrl userAgent world.mute c).run .everything) target "Found ip addresses: "
        findings told := by
  rw [find_eq] at h
  rw [find_eq, find_eq]
  obtain ⟨token, ⟨region, first, rest⟩, (listed : List Droplet), htoken, hcriteria, hlisted, -,
      hdiscloses⟩ := search.discloses_find h fun client criteria =>
      (inquires_droplets client criteria.first world).mapError _
  obtain ⟨rfl, htags⟩ := quiet_criteria_iff.mp hcriteria
  let criteria : Criteria := ⟨c.nonempty? "region", first, rest⟩
  let wanted := listed.filter criteria.isMetBy
  let findings := wanted.flatMap fun d =>
    d.privateAddresses.map (Finding.mk [d.name, toString d.id])
  let told := ⟨.debug, target, s!"Found {listed.length} droplets"⟩ ::
    wanted.flatMap Droplet.records
  have haddresses : findings.map Finding.address = wanted.flatMap Droplet.privateAddresses := by
    simp [findings, List.map_flatMap, Function.comp_def]
  refine ⟨findings, told, .digitalOcean htags htoken (run_mapError_eq_ok hlisted),
    hdiscloses _ _ findings told [] ?_ (Tells.flatMap tells_records wanted).cons_debug⟩
  rw [haddresses]
  exact (writes_tell criteria listed).run_everything

end DigitalOcean

namespace Hetzner

theorem inquires_servers (client : Http.Client) (selector : String) (world : World) :
    Inquires (servers client selector world.web) (servers client selector world.mute.web) :=
  .ofExcept_bind fun _ => (Listing.inquires_pages (fun _ => Http.inquires_fetch _ _) 1
    world.web).bind (fun _ => silent_ofExcept _) _

theorem tells_record (kind : AddressKind) (s : Server) :
    Tells [s.record kind]
      ((s.address? kind).toList.map (Finding.mk [s.name, toString s.id])) := by
  unfold Server.record
  cases s.address? kind with
  | none => exact .nil
  | some ip =>
    refine .cons (Record.tellsOf_pair ?_ ?_ ?_) .nil <;>
      apply_rules [Text.mentions_append_right, Text.Mentions.append]

theorem discloses_find
    (h : ((find baseUrl userAgent world c).run .everything).result = .ok addresses) :
    ∃ findings told, WebService.Finds baseUrl userAgent world c .hetzner findings ∧
      Discloses ((find baseUrl userAgent world c).run .everything)
        ((find baseUrl userAgent world.mute c).run .everything) target "found IP addresses: "
        findings told := by
  rw [find_eq] at h
  rw [find_eq, find_eq]
  obtain ⟨token, criteria, (listed : List Server), htoken, hcriteria, hlisted, -, hdiscloses⟩ :=
    search.discloses_find h fun client criteria =>
      (inquires_servers client criteria.selector world).mapError _
  obtain rfl := (quiet_criteria c).unique hcriteria
  let wanted := listed.filter (criteriaOf c).isMetBy
  let findings := wanted.flatMap fun s =>
    (s.address? (kindOf c)).toList.map (Finding.mk [s.name, toString s.id])
  let told := wanted.flatMap fun s => [s.record (kindOf c)]
  have haddresses : findings.map Finding.address = addressesAmong (criteriaOf c) listed := by
    simp [findings, wanted, addressesAmong, criteriaOf, List.map_flatMap, Function.comp_def]
  refine ⟨findings, told, .hetzner htoken (run_mapError_eq_ok hlisted),
    hdiscloses _ _ findings told [] ?_ (Tells.flatMap (tells_record (kindOf c)) wanted)⟩
  rw [haddresses]
  exact (writes_tell (criteriaOf c) listed).run_everything

end Hetzner

namespace Vultr

theorem inquires_instances (client : Http.Client) (tag : String) (world : World) :
    Inquires (instances client tag world.web) (instances client tag world.mute.web) :=
  .ofExcept_bind fun _ => (Listing.inquires_pages (fun _ => Http.inquires_fetch _ _) ""
    world.web).bind (fun _ => silent_ofExcept _) _

theorem tells_record (i : Instance) : Tells [i.record] [⟨[i.label, i.id], i.internalIp⟩] := by
  unfold Instance.record
  refine .cons (Record.tellsOf_pair ?_ ?_ ?_) .nil <;>
    apply_rules [Text.mentions_append_right, Text.Mentions.append]

theorem discloses_find
    (h : ((find baseUrl userAgent world c).run .everything).result = .ok addresses) :
    ∃ findings told, WebService.Finds baseUrl userAgent world c .vultr findings ∧
      Discloses ((find baseUrl userAgent world c).run .everything)
        ((find baseUrl userAgent world.mute c).run .everything) target "Found ip addresses: "
        findings told := by
  rw [find_eq] at h
  rw [find_eq, find_eq]
  obtain ⟨token, criteria, (listed : List Instance), htoken, hcriteria, hlisted, -, hdiscloses⟩ :=
    search.discloses_find h fun client criteria =>
      (inquires_instances client criteria.tag world).mapError _
  obtain rfl := (Call.quiet_pure (criteriaOf c)).unique hcriteria
  let wanted := listed.filter (Instance.isWanted (c.getD "region"))
  let findings := wanted.map fun i => (⟨[i.label, i.id], i.internalIp⟩ : Finding)
  let told := wanted.flatMap fun i => [i.record]
  have haddresses : findings.map Finding.address = wanted.flatMap fun i => [i.internalIp] := by
    simp [findings, ← List.map_eq_flatMap, Function.comp_def]
  have htold : Tells told findings := by
    simp only [findings, List.map_eq_flatMap]
    exact Tells.flatMap tells_record wanted
  refine ⟨findings, told, .vultr htoken (run_mapError_eq_ok hlisted),
    hdiscloses _ _ findings told [] ?_ htold⟩
  rw [haddresses]
  exact (writes_tell (criteriaOf c) listed).run_everything

end Vultr

namespace Linode
variable {kind : AddressKind} {client : Http.Client}

theorem inquires_instances (client : Http.Client) (filter : String) (world : World) :
    Inquires (instances client filter world.web) (instances client filter world.mute.web) :=
  ((Listing.inquires_pages (fun _ => Http.inquires_fetch _ _) 1 world.web).mapError _).bind
    (fun _ => silent_ofExcept _) _

theorem inquires_ask (client : Http.Client) (criteria : Criteria) (world : World) :
    Inquires (ask client criteria world.web) (ask client criteria world.mute.web) :=
  .mapError_ofExcept_bind fun client => inquires_instances client criteria.filter world

theorem tells_records (kind : AddressKind) (i : Instance) (addresses : List String) :
    Tells (i.records kind addresses)
      (addresses.map (Finding.mk [i.label, toString i.id])) := by
  refine Tells.map (fun _ => Record.tellsOf_pair ?_ ?_ ?_) _ <;>
    apply_rules [Text.mentions_append_right, Text.Mentions.append]

theorem run_linkLocals {listed : List Instance} {replies : List Http.Reply}
    (h : ((linkLocals client listed replies).run .everything).result = .ok addresses) :
    ∃ found events, LinkLocals client listed replies found ∧
      addresses = found.flatMap (fun pair => pair.2.toList) ∧
      (linkLocals client listed replies).run .everything = ⟨.ok addresses,
        found.flatMap fun pair => pair.1.records .privateV6 pair.2.toList, events⟩ := by
  induction listed generalizing replies addresses with
  | nil =>
    obtain rfl := Except.ok.inj h
    exact ⟨[], [], .nil replies, rfl, rfl⟩
  | cons i rest ih =>
    rw [linkLocals] at h ⊢
    obtain ⟨address, haddress, h⟩ := run_bind_eq_ok h
    obtain ⟨asked, hasked⟩ := (silent_linkLocal client i.id _).exists_run haddress
    have hreport := writes_report (ε := ProviderError) .privateV6 i address.toList .everything
    rw [run_bind_ok hreport] at h
    obtain ⟨more, hmore, h⟩ := run_bind_eq_ok h
    obtain rfl := Except.ok.inj h
    -- The replies that are left are those for the instances that are left.
    obtain ⟨found, events, hfound, rfl, hrun⟩ := ih hmore
    refine ⟨(i, address) :: found, asked ++ events, .cons haddress hfound, rfl, ?_⟩
    rw [run_bind_ok hasked, run_bind_ok hreport, run_bind_ok hrun]
    simp

theorem discloses_find
    (h : ((find baseUrl userAgent world c).run .everything).result = .ok addresses) :
    ∃ findings told, WebService.Finds baseUrl userAgent world c .linode findings ∧
      Discloses ((find baseUrl userAgent world c).run .everything)
        ((find baseUrl userAgent world.mute c).run .everything) target "Found ip addresses: "
        findings told := by
  rw [find_eq] at h
  rw [find_eq, find_eq]
  obtain ⟨token, ⟨kind, region, tag⟩, (⟨listed, later⟩ : List Instance × List Http.Reply), htoken,
      hcriteria, hfound, htells, hdiscloses⟩ :=
    search.discloses_find h fun client criteria => inquires_ask client criteria world
  obtain ⟨hkind, rfl, rfl⟩ := quiet_criteria_iff.mp hcriteria
  let client : Http.Client := ⟨baseUrl, userAgent, token⟩
  let criteria : Criteria := ⟨kind, c.getD "region", c.getD "tag_name"⟩
  have hlisted := result_instances_of_ask hfound
  have htell {found : List String} {told : List Record} {events : List Event}
      (hrun : (addressesOf client kind (listed, later)).run .everything =
        ⟨.ok found, told, events⟩) :
      (tell client criteria (listed, later)).run .everything =
        ⟨.ok found, told ++ [closing found], events⟩ := by
    rw [tell, run_bind_ok hrun, (writes_log_pure _ _ _ _).run_everything, List.append_nil]
    rfl
  by_cases hlocal : kind = .privateV6
  · subst hlocal
    obtain ⟨found, hlocals, -⟩ := run_bind_eq_ok htells
    obtain ⟨locals, events, hanswered, rfl, hrun⟩ := run_linkLocals hlocals
    let findings := locals.flatMap fun pair =>
      pair.2.toList.map (Finding.mk [pair.1.label, toString pair.1.id])
    have haddresses : findings.map Finding.address = locals.flatMap fun pair => pair.2.toList := by
      simp [findings, List.map_flatMap, Function.comp_def]
    have htold := Tells.flatMap (fun pair : Instance × Option String =>
      tells_records .privateV6 pair.1 pair.2.toList) locals
    refine ⟨findings, _, .linodeLocal hkind htoken hlisted hanswered,
      hdiscloses target "Found ip addresses: " findings _ events ?_ htold⟩
    rw [haddresses]
    exact htell hrun
  · let findings := listed.flatMap fun i =>
      (i.addresses kind).map (Finding.mk [i.label, toString i.id])
    have haddresses : findings.map Finding.address =
        listed.flatMap (Instance.addresses kind) := by
      simp [findings, List.map_flatMap, Function.comp_def]
    have htold := Tells.flatMap (fun i => tells_records kind i (i.addresses kind)) listed
    refine ⟨findings, _, .linode hkind hlocal htoken hlisted,
      hdiscloses target "Found ip addresses: " findings _ [] ?_ htold⟩
    rw [haddresses]
    exact htell (writes_addressesOf client hlocal (listed, later)).run_everything

end Linode

namespace Ec2
variable {q : Query}

def Instance.findings (kind : AddressKind) (i : Instance) : List Finding :=
  (i.addresses kind).map (Finding.mk [i.id.getD ""])

theorem inquires_reservations (credentials : Option Credentials) (q : Query) (world : World) :
    Inquires (reservations credentials q world.ec2) (reservations credentials q world.mute.ec2) :=
  (Listing.inquires_pages (inquires_fetch credentials q) none world.ec2).bind
    (fun _ => silent_ofExcept _) _

theorem tells_addressRecord (id adjective : String) (address : Option String) :
    Tells [addressRecord id adjective address] (address.toList.map (Finding.mk [id])) := by
  cases address with
  | none => exact .nil
  | some address =>
    refine .cons ⟨?_, List.forall_mem_singleton.mpr ?_⟩ .nil <;>
      apply_rules [Text.mentions_append_right, Text.Mentions.append]

theorem tells_interface (id : String) (i : Interface) :
    Tells (i.records id) (i.addresses.map (Finding.mk [id])) := by
  unfold Interface.records
  cases hipv6 : i.ipv6 with
  | none =>
    have hnone : i.addresses = [] := by simp [Interface.addresses, hipv6]
    rw [hnone]
    exact .nil
  | some addresses =>
    refine Tells.map (fun _ => ⟨?_, List.forall_mem_singleton.mpr ?_⟩) _ <;>
      apply_rules [Text.mentions_append_right, Text.Mentions.append]

theorem tells_details (kind : AddressKind) (i : Instance) :
    Tells (i.details kind) (i.findings kind) := by
  cases kind with
  | publicV4 => exact tells_addressRecord _ _ _
  | publicV6 =>
    have hall := Tells.flatMap (tells_interface (i.id.getD "")) (i.interfaces.getD [])
    rw [← List.map_flatMap] at hall
    exact hall.cons_debug
  | privateV4 => exact tells_addressRecord _ _ _
  | privateV6 => exact tells_addressRecord _ _ _

theorem tells_records (kind : AddressKind) (r : Reservation) :
    Tells (r.records kind) (r.members.flatMap (Instance.findings kind)) :=
  (Tells.flatMap (fun i => (tells_details kind i).cons_debug) r.members).cons_debug

def About (id text : String) : Prop := ∃ more, text = s!"Instance {id} has " ++ more

theorem about_of_eq {id first rest : String} (h : first = " has " ++ rest) :
    About id ("Instance " ++ id ++ first) := by
  rw [h, ← String.append_assoc]
  exact ⟨rest, rfl⟩

theorem About.append {id text : String} (h : About id text) (more : String) :
    About id (text ++ more) := by
  obtain ⟨said, rfl⟩ := h
  exact ⟨said ++ more, String.append_assoc⟩

theorem about_addressRecord (id adjective : String) (address : Option String) :
    About id (addressRecord id adjective address).text := by
  cases address with
  | none =>
    have hfirst : " has no " = " has " ++ "no " := by decide
    exact ((about_of_eq hfirst).append _).append _
  | some address =>
    have hfirst : " has " = " has " ++ "" := by decide
    exact (((about_of_eq hfirst).append _).append _).append _

theorem about_of_mem_interface {id : String} {i : Interface} {r : Record} (h : r ∈ i.records id) :
    About id r.text := by
  unfold Interface.records at h
  cases hipv6 : i.ipv6 with
  | none =>
    rw [hipv6] at h
    obtain rfl := List.mem_singleton.mp h
    have hfirst : " has no IPv6 on " = " has " ++ "no IPv6 on " := by decide
    exact (about_of_eq hfirst).append _
  | some addresses =>
    rw [hipv6] at h
    obtain ⟨address, -, rfl⟩ := List.mem_map.mp h
    have hfirst : " has IPv6 " = " has " ++ "IPv6 " := by decide
    exact (((about_of_eq hfirst).append _).append _).append _

theorem about_of_mem_details {kind : AddressKind} {i : Instance} {r : Record}
    (h : r ∈ i.details kind) : About (i.id.getD "") r.text := by
  cases kind with
  | publicV4 =>
    obtain rfl := List.mem_singleton.mp h
    exact about_addressRecord _ _ _
  | publicV6 =>
    obtain rfl | hmem := List.mem_cons.mp h
    · have hfirst : " has " = " has " ++ "" := by decide
      exact ((about_of_eq hfirst).append _).append _
    · obtain ⟨interface, -, hinterface⟩ := List.mem_flatMap.mp hmem
      exact about_of_mem_interface hinterface
  | privateV4 =>
    obtain rfl := List.mem_singleton.mp h
    exact about_addressRecord _ _ _
  | privateV6 =>
    obtain rfl := List.mem_singleton.mp h
    exact about_addressRecord _ _ _

theorem discloses_find
    (h : ((find userAgent world c).run .everything).result = .ok addresses) :
    ∃ q listed, Poses c world.env q ∧
      ((reservations (credentialsOf c world.env) q world.ec2).run .everything).result = .ok listed ∧
      Discloses ((find userAgent world c).run .everything)
        ((find userAgent world.mute c).run .everything) target "Found ip addresses: "
        (listed.flatMap fun r => r.members.flatMap (Instance.findings q.kind))
        (⟨.debug, target, s!"Found {listed.length} reservations"⟩ ::
          listed.flatMap (Reservation.records q.kind)) := by
  rw [find_eq] at h
  rw [find_eq, find_eq]
  obtain ⟨⟨q, signing⟩, (listed : List Reservation), hprovider, hplan, hlisted, -, hdiscloses⟩ :=
    Search.discloses_find h fun plan => (inquires_reservations plan.2 plan.1 world).mapError _
  obtain ⟨hposes, hsigning⟩ := of_quiet_settle hprovider hplan
  obtain rfl : signing = credentialsOf c world.env := hsigning
  let findings := listed.flatMap fun r => r.members.flatMap (Instance.findings q.kind)
  have haddresses : findings.map Finding.address = Ec2.addresses q.kind listed := by
    simp [findings, Instance.findings, Ec2.addresses, List.map_flatMap, List.flatMap_assoc,
      Function.comp_def]
  refine ⟨q, listed, hposes, run_mapError_eq_ok hlisted,
    hdiscloses _ _ findings _ [] ?_ (Tells.flatMap (tells_records q.kind) listed).cons_debug⟩
  rw [haddresses]
  exact (writes_tell q.kind listed).run_everything

end Ec2

namespace WebService

def target : WebService → String
  | digitalOcean => DigitalOcean.target
  | hetzner => Hetzner.target
  | linode => Linode.target
  | vultr => Vultr.target

def closing : WebService → String
  | hetzner => "found IP addresses: "
  | digitalOcean | linode | vultr => "Found ip addresses: "

theorem discloses_find (s : WebService)
    (h : ((s.find baseUrl userAgent world c).run .everything).result = .ok addresses) :
    ∃ findings told, s.Finds baseUrl userAgent world c findings ∧
      Discloses ((s.find baseUrl userAgent world c).run .everything)
        ((s.find baseUrl userAgent world.mute c).run .everything) s.target s.closing findings
        told := by
  cases s with
  | digitalOcean => exact DigitalOcean.discloses_find h
  | hetzner => exact Hetzner.discloses_find h
  | linode => exact Linode.discloses_find h
  | vultr => exact Vultr.discloses_find h

end WebService

/-- The log tells exactly which addresses were found. After the first response a search that
succeeds tells of what it found, address by address and each with the instance it belongs to, and
last of all it shows the list of the addresses.

What is told of reservations is nested: each of them is named after all that is told of the one
before, its instances follow, and each instance is named before anything else is told of it. -/
theorem log_tells_findings (baseUrl : String) (userAgent : Option String) (world : World)
    (c : Config) (addresses : List String) :
    (∀ s : WebService,
      let run := (s.find baseUrl userAgent world c).run .everything
      let mute := (s.find baseUrl userAgent world.mute c).run .everything
      run.result = .ok addresses →
      ∃ findings told, s.Finds baseUrl userAgent world c findings ∧
        Discloses run mute s.target s.closing findings told) ∧
    (let run := (Ec2.find userAgent world c).run .everything
      let mute := (Ec2.find userAgent world.mute c).run .everything
      run.result = .ok addresses →
      ∃ q listed, Ec2.Poses c world.env q ∧
        ((Ec2.reservations (Ec2.credentialsOf c world.env) q world.ec2).run .everything).result =
          .ok listed ∧
        Discloses run mute Ec2.target "Found ip addresses: "
          (listed.flatMap fun r => r.members.flatMap fun i =>
            (i.addresses q.kind).map (Finding.mk [i.id.getD ""]))
          (⟨.debug, Ec2.target, s!"Found {listed.length} reservations"⟩ ::
            listed.flatMap fun r =>
              let id := r.id.getD ""
              ⟨.debug, Ec2.target, s!"Reservation {id} has {r.members.length} instances"⟩ ::
                r.members.flatMap fun i =>
                  ⟨.debug, Ec2.target, "Found instance " ++ i.id.getD ""⟩ :: i.details q.kind) ∧
        ∀ r ∈ listed, ∀ i ∈ r.members, ∀ record ∈ i.details q.kind,
          Ec2.About (i.id.getD "") record.text) := by
  constructor
  · intro s run mute h
    exact s.discloses_find h
  · intro run mute h
    obtain ⟨q, listed, hposes, hlisted, hdiscloses⟩ := Ec2.discloses_find h
    exact ⟨q, listed, hposes, hlisted, hdiscloses, fun _ _ _ _ _ => Ec2.about_of_mem_details⟩

set_option maxRecDepth 4000 in
/-- Instances on two pages, of which one is in another region, and two reservations with three
instances, one of them without an address. -/
theorem log_tells_findings_sample :
    let first : Ec2.Reservation := ⟨some "r1", some [⟨some "i1", some "10.0.0.1", none, none⟩,
      ⟨some "i2", none, none, none⟩]⟩
    let second : Ec2.Reservation := ⟨some "r2", some [⟨some "i3", some "10.0.0.3", none, none⟩]⟩
    let world : World := { World.offline [] with
      web := [
        .response 200 ("[[[\"i1\",\"a\",\"lon\",\"10.0.0.1\"]," ++
          "[\"i2\",\"b\",\"ams\",\"10.0.0.2\"]],[[\"n\"]]]"),
        .response 200 "[[[\"i3\",\"c\",\"lon\",\"10.0.0.3\"]],[[\"\"]]]"]
      ec2 := [.page ⟨some [first], some "n"⟩, .page ⟨some [second], none⟩] }
    let vultr : Config := .ofList [("provider", "vultr"), ("api_token", "t"), ("region", "lon")]
    let aws : Config := .ofList [("provider", "aws"), ("tag_key", "k"), ("tag_value", "v"),
      ("access_key_id", "i"), ("secret_access_key", "s")]
    let run (world : World) := (Vultr.find "http://[::1]:8080" none world vultr).run .everything
    let search (world : World) := (Ec2.find none world aws).run .everything
    let detail (text : String) : Record := ⟨.debug, Ec2.target, text⟩
    let found (text : String) : Record := ⟨.info, Ec2.target, text⟩
    (run world).result = .ok ["10.0.0.1", "10.0.0.3"] ∧
    (∃ told, Discloses (run world) (run world.mute) Vultr.target "Found ip addresses: "
      [⟨["a", "i1"], "10.0.0.1"⟩, ⟨["c", "i3"], "10.0.0.3"⟩] told) ∧
    (search world).result = .ok ["10.0.0.1", "10.0.0.3"] ∧
    Discloses (search world) (search world.mute) Ec2.target "Found ip addresses: "
      [⟨["i1"], "10.0.0.1"⟩, ⟨["i3"], "10.0.0.3"⟩]
      [detail "Found 2 reservations", detail "Reservation r1 has 2 instances",
        detail "Found instance i1", found "Instance i1 has private ip 10.0.0.1",
        detail "Found instance i2", detail "Instance i2 has no private ip",
        detail "Reservation r2 has 1 instances",
        detail "Found instance i3", found "Instance i3 has private ip 10.0.0.3"] := by
  intro first second world vultr aws run search detail found
  have hrun : (run world).result = .ok ["10.0.0.1", "10.0.0.3"] := by decide +kernel
  have hsearch : (search world).result = .ok ["10.0.0.1", "10.0.0.3"] := by decide +kernel
  refine ⟨hrun, ?_, hsearch, ?_⟩
  · obtain ⟨findings, told, hfinds, hdiscloses⟩ :=
      (log_tells_findings "http://[::1]:8080" none world vultr _).1 .vultr hrun
    cases hfinds with
    | @vultr token listed hauthorized hlists =>
      have htoken : vultr.apiToken world.env "VULTR_API_KEY" = .ok "t" := by decide
      obtain rfl : "t" = token := Except.ok.inj (htoken.symm.trans hauthorized)
      have hlisted : ((Vultr.instances ⟨"http://[::1]:8080", none, "t"⟩ (vultr.getD "tag_name")
          world.web).run .everything).result = .ok [⟨"i1", "a", "lon", "10.0.0.1"⟩,
            ⟨"i2", "b", "ams", "10.0.0.2"⟩, ⟨"i3", "c", "lon", "10.0.0.3"⟩] := by
        decide +kernel
      obtain rfl := Except.ok.inj (hlisted.symm.trans hlists)
      exact ⟨told, hdiscloses⟩
  · obtain ⟨q, listed, hposes, hlists, hdiscloses, -⟩ :=
      (log_tells_findings "" none world aws _).2 hsearch
    have hasked : Ec2.Poses aws world.env ⟨"k", "v", .privateV4, .fallback⟩ :=
      ⟨by decide, by decide, by decide, by decide, by decide⟩
    obtain rfl := (Ec2.quiet_query hasked).unique (Ec2.quiet_query hposes)
    have hlisted : ((Ec2.reservations (Ec2.credentialsOf aws world.env)
        ⟨"k", "v", .privateV4, .fallback⟩ world.ec2).run .everything).result =
          .ok [first, second] := by decide +kernel
    obtain rfl := Except.ok.inj (hlisted.symm.trans hlists)
    refine (congrArg (Discloses (search world) (search world.mute) Ec2.target
      "Found ip addresses: " _) ?_).mp hdiscloses
    decide +kernel

end NodeDiscovery
