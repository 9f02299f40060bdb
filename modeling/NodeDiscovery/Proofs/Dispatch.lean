import NodeDiscovery.Discovery
import NodeDiscovery.Proofs.Config.Scan
import NodeDiscovery.Provider.Stub
import NodeDiscovery.World.Offline
import Mathlib.Logic.ExistsUnique

/-! Dispatch: a configuration text gets to one provider, which is asked once, or to none. To count
how often providers are asked, each of them is made to report it. -/
namespace NodeDiscovery

/-- A provider that first reports that it is asked, under a number, and then answers as before. -/
def Provider.reporting (id : Nat) (p : Provider) : Provider :=
  { p with find := fun userAgent world c => do
      Call.emit (.stub id c userAgent)
      p.find userAgent world c }

theorem Provider.run_reporting (id : Nat) (p : Provider) (world : World) (c : Config)
    (logger : Logger) :
    (((p.reporting id).addresses world c).run logger) =
      let answer := (p.addresses world c).run logger
      ⟨answer.result, answer.log, .stub id c p.userAgent :: answer.events⟩ := by
  show (Call.emit _ >>= fun _ => p.find p.userAgent world c).run logger = _
  rw [Call.run_bind_ok (Call.run_emit _ _)]
  rfl

namespace Registry

/-- The same providers, each of which reports under the number of its name. -/
def reporting (number : String → Nat) (r : Registry) : Registry where
  providers := {
    rows := r.providers.rows.map fun row => (row.1, row.2.reporting (number row.1))
    ascending := List.pairwise_map.mpr r.providers.ascending }

theorem get?_reporting (number : String → Nat) (r : Registry) (name : String) :
    (r.reporting number).get? name =
      (r.get? name).map (Provider.reporting (number name)) := by
  show Table.lookupRow name (r.providers.rows.map _) = (Table.lookupRow name r.providers.rows).map _
  induction r.providers.rows with
  | nil => rfl
  | cons row rest ih =>
    by_cases h : name = row.1
    · simp [Table.lookupRow, h]
    · simp [Table.lookupRow, h, ih]

/-- Where a text leads: to the provider registered under the name that its configuration gives,
with that configuration, or to the first thing that is amiss. -/
inductive Leads (r : Registry) (text : String) :
    Except DiscoveryError (String × Provider × Config) → Prop
  | malformed {fault : SyntaxError} (parsed : Config.parse text = .error fault) :
      Leads r text (.error (.config fault))
  | unnamed {c : Config} (parsed : Config.parse text = .ok c)
      (named : c.get? "provider" = none) :
      Leads r text (.error .missingProvider)
  | unknown {c : Config} {name : String} (parsed : Config.parse text = .ok c)
      (named : c.get? "provider" = some name) (registered : r.get? name = none) :
      Leads r text (.error (.unknownProvider name))
  | found {c : Config} {name : String} {p : Provider} (parsed : Config.parse text = .ok c)
      (named : c.get? "provider" = some name) (registered : r.get? name = some p) :
      Leads r text (.ok (name, p, c))

section Run
variable {r : Registry} {text : String}

theorem exists_leads (r : Registry) (text : String) : ∃ target, r.Leads text target := by
  cases hparsed : Config.parse text with
  | error fault => exact ⟨_, .malformed hparsed⟩
  | ok c =>
    cases hnamed : c.get? "provider" with
    | none => exact ⟨_, .unnamed hparsed hnamed⟩
    | some name =>
      cases hregistered : r.get? name with
      | none => exact ⟨_, .unknown hparsed hnamed hregistered⟩
      | some p => exact ⟨_, .found hparsed hnamed hregistered⟩

theorem Leads.unique {target target' : Except DiscoveryError (String × Provider × Config)}
    (h : r.Leads text target) (h' : r.Leads text target') : target' = target := by
  cases h <;> cases h' <;> simp_all

theorem Leads.reporting {target : Except DiscoveryError (String × Provider × Config)}
    (number : String → Nat) (h : r.Leads text target) :
    (r.reporting number).Leads text
      (target.map fun (name, p, c) => (name, p.reporting (number name), c)) := by
  cases h with
  | malformed parsed => exact .malformed parsed
  | unnamed parsed named => exact .unnamed parsed named
  | unknown parsed named registered =>
    refine .unknown parsed named ?_
    rw [get?_reporting, registered]
    rfl
  | found parsed named registered =>
    refine .found parsed named ?_
    rw [get?_reporting, registered]
    rfl

theorem discover_of_parse {c : Config} (parsed : Config.parse text = .ok c) (world : World) :
    r.discover world text = r.discoverConfig world c := by
  rw [discover, parsed]

theorem Leads.discover_error {fault : DiscoveryError} (h : r.Leads text (.error fault))
    (world : World) : r.discover world text = Call.fail fault := by
  cases h with
  | malformed parsed => rw [discover, parsed]
  | unnamed parsed named =>
    rw [discover_of_parse parsed, discoverConfig, Config.provider, Config.providerKey, named]
  | unknown parsed named registered =>
    rw [discover_of_parse parsed, discoverConfig, Config.provider, Config.providerKey, named]
    simp only [registered]

theorem Leads.discover_ok {name : String} {p : Provider} {c : Config}
    (h : r.Leads text (.ok (name, p, c))) (world : World) :
    r.discover world text = (p.addresses world c).mapError (.provider name) := by
  cases h with
  | found parsed named registered =>
    rw [discover_of_parse parsed, discoverConfig, Config.provider, Config.providerKey, named]
    simp only [registered]

end Run

/-- A text leads to exactly one target. If that is a fault, no provider is asked and nothing is
logged; otherwise just the provider of that name is asked, once, with the configuration of the text,
and its answer is the answer. A text means the same as its configuration. -/
theorem discover_asks_once (r : Registry) (number : String → Nat) (world : World) (text : String)
    (logger : Logger) :
    let run := (r.discover world text).run logger
    let reported := ((r.reporting number).discover world text).run logger
    (∃! target, r.Leads text target) ∧
    (∀ fault, r.Leads text (.error fault) →
      run = ⟨.error fault, [], []⟩ ∧ reported = ⟨.error fault, [], []⟩) ∧
    (∀ name p c, r.Leads text (.ok (name, p, c)) →
      let answer := (p.addresses world c).run logger
      reported = ⟨run.result, run.log, .stub (number name) c p.userAgent :: run.events⟩ ∧
      run.log = answer.log ∧ run.events = answer.events ∧
      (∀ found, answer.result = .ok found → run.result = .ok found) ∧
      ∀ fault, answer.result = .error fault → run.result = .error (.provider name fault) ∧
        (DiscoveryError.provider name fault).message =
          "discover-" ++ name ++ ": " ++ fault.message) ∧
    ∀ c, Config.parse text = .ok c →
      r.discover world text = r.discoverConfig world c ∧
      (r.reporting number).discover world text =
        (r.reporting number).discoverConfig world c := by
  intro run reported
  refine ⟨?_, ?_, ?_, ?_⟩
  · obtain ⟨target, h⟩ := exists_leads r text
    exact ⟨target, h, fun _ h' => h.unique h'⟩
  · intro fault h
    have hreporting : (r.reporting number).Leads text (.error fault) := h.reporting number
    constructor
    · show (r.discover world text).run logger = _
      rw [h.discover_error, Call.run_fail]
    · show ((r.reporting number).discover world text).run logger = _
      rw [hreporting.discover_error, Call.run_fail]
  · intro name p c h answer
    have hreporting : (r.reporting number).Leads text
        (.ok (name, p.reporting (number name), c)) := h.reporting number
    have hrun : run = ⟨answer.result.mapError (.provider name), answer.log, answer.events⟩ := by
      show (r.discover world text).run logger = _
      rw [h.discover_ok, Call.run_mapError]
    have hreported : reported = ⟨answer.result.mapError (.provider name), answer.log,
        .stub (number name) c p.userAgent :: answer.events⟩ := by
      show ((r.reporting number).discover world text).run logger = _
      rw [hreporting.discover_ok, Call.run_mapError, Provider.run_reporting]
    rw [hreported, hrun]
    refine ⟨rfl, rfl, rfl, ?_, ?_⟩
    · intro found hfound
      rw [hfound]
      rfl
    · intro fault hfault
      rw [hfault]
      exact ⟨rfl, rfl⟩
  · intro c hparsed
    exact ⟨discover_of_parse hparsed world, discover_of_parse hparsed world⟩

/-- Of two providers the one that the text names is asked, with all of the text. -/
theorem discover_asks_once_sample :
    let r : Registry := ⟨.ofList [("fake", Stub.provider 1 "" true (.ok ["10.0.0.1"])),
      ("other", Stub.provider 2 "" true (.error (.missingArgument "key")))]⟩
    let c : Config := .ofList [("provider", "fake"), ("x", "1")]
    let p := Stub.provider 1 "" true (.ok ["10.0.0.1"])
    r.Leads "x=1 provider=fake" (.ok ("fake", p, c)) ∧
      ((r.reporting String.length).discover (World.offline []) "x=1 provider=fake").run .discard =
        ⟨.ok ["10.0.0.1"], [], [.stub 4 c none, .stub 1 c none]⟩ := by
  intro r c p
  have hyields : Config.Yields "x=1 provider=fake".toList [("x", "1"), ("provider", "fake")] :=
    ⟨[], .pair (by rfl) (.pair (by rfl) .done), Text.blanks_nil⟩
  have hparsed : Config.parse "x=1 provider=fake" = .ok c :=
    Config.parse_eq_ok_iff_yields.mpr ⟨_, hyields, by decide, by decide⟩
  have hleads : r.Leads "x=1 provider=fake" (.ok ("fake", p, c)) := .found hparsed rfl rfl
  obtain ⟨hreported, hlog, hevents, hok, -⟩ := (discover_asks_once r String.length
    (World.offline []) "x=1 provider=fake" .discard).2.2.1 "fake" p c hleads
  refine ⟨hleads, ?_⟩
  rw [hreported, hlog, hevents, hok ["10.0.0.1"] rfl]
  rfl

end Registry
end NodeDiscovery
