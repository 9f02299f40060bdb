import NodeDiscovery.Proofs.Builtin
import NodeDiscovery.Proofs.Dispatch
import NodeDiscovery.World.Offline

/-! Logging only observes: how a call ends and what it does is the same for all loggers, and each of
them gets the part that it takes of one and the same log. -/
namespace NodeDiscovery

open Call

def Provider.Transparent (p : Provider) : Prop :=
  ∀ userAgent world c, (p.find userAgent world c).Transparent

theorem Builtin.transparent_provider (b : Builtin) : b.provider.Transparent := by
  intro userAgent world c
  rw [find_eq]
  exact (b.search userAgent).transparent_find world c

theorem Stub.transparent_find (id : Nat) (result : Except ProviderError (List String))
    (userAgent : Option String) (world : World) (c : Config) :
    (find id result userAgent world c).Transparent := by
  unfold find
  refine (silent_emit _).transparent.bind fun _ => (writes_log _ _ _).transparent.bind fun _ => ?_
  cases result <;>
    exact (writes_log _ _ _).transparent.bind fun _ => transparent_ofExcept _

theorem Provider.Transparent.reporting {p : Provider} (h : p.Transparent) (id : Nat) :
    (p.reporting id).Transparent := fun userAgent world c =>
  (silent_emit _).transparent.bind fun _ => h userAgent world c

namespace Registry
variable {r : Registry} {world : World}

def Transparent (r : Registry) : Prop := ∀ name p, r.get? name = some p → p.Transparent

theorem Transparent.reporting (h : r.Transparent) (number : String → Nat) :
    (r.reporting number).Transparent := by
  intro name p registered
  rw [get?_reporting, Option.map_eq_some_iff] at registered
  obtain ⟨asked, hasked, rfl⟩ := registered
  exact (h name asked hasked).reporting _

theorem Transparent.discoverConfig (h : r.Transparent) (world : World) (c : Config) :
    (r.discoverConfig world c).Transparent := by
  unfold Registry.discoverConfig
  cases c.provider with
  | none => exact transparent_ofExcept _
  | some name =>
    simp only
    cases hregistered : r.get? name with
    | none => exact transparent_ofExcept _
    | some p => exact (h name p hregistered p.userAgent world c).mapError _

theorem Transparent.discover (h : r.Transparent) (world : World) (text : String) :
    (r.discover world text).Transparent := by
  unfold Registry.discover
  cases Config.parse text with
  | error fault => exact transparent_ofExcept _
  | ok c => exact h.discoverConfig world c

end Registry

namespace Call
variable {ε α : Type} {x : Call ε α}

theorem Transparent.observed (h : x.Transparent) :
    (∀ logger logger', (x.run logger').result = (x.run logger).result ∧
      (x.run logger').events = (x.run logger).events) ∧
    (∀ max, (x.run (.upTo (some max))).log = (x.run .everything).log.filter (·.level ≤ max)) ∧
    (x.run .discard).log = [] := by
  refine ⟨fun logger logger' => ?_, fun max => ?_, ?_⟩
  · rw [h logger, h logger']
    exact ⟨rfl, rfl⟩
  · rw [h (.upTo (some max))]
    rfl
  · rw [h .discard, Logger.taken_discard]

end Call

/-- Logging is pure observation. The providers of this library are transparent, and so are stubs.
Whatever transparent providers there are, a call ends the same way for any two loggers, asks the
same providers, and sends, looks up and runs the same. What is told up to a level is the part of all
that is told which has no lower level, in its order; where nothing is to be told, nothing is. -/
theorem logging_observes (r : Registry) (number : String → Nat) (world : World) (text : String)
    (c : Config) :
    (∀ (b : Builtin) (p : Provider), p.find = b.provider.find → p.Transparent) ∧
    (∀ (id : Nat) (result : Except ProviderError (List String)) (p : Provider),
      p.find = Stub.find id result → p.Transparent) ∧
    ((∀ name p, r.get? name = some p → p.Transparent) →
      let calls := [r.discover world text, (r.reporting number).discover world text,
        r.discoverConfig world c, (r.reporting number).discoverConfig world c]
      ∀ x ∈ calls,
        (∀ logger logger', (x.run logger').result = (x.run logger).result ∧
          (x.run logger').events = (x.run logger).events) ∧
        (∀ max, (x.run (.upTo (some max))).log =
          (x.run .everything).log.filter (·.level ≤ max)) ∧
        (x.run .discard).log = []) := by
  refine ⟨fun b p same => ?_, fun id result p same => ?_, ?_⟩
  · intro userAgent world c
    rw [same]
    exact b.transparent_provider userAgent world c
  · intro userAgent world c
    rw [same]
    exact Stub.transparent_find id result userAgent world c
  · intro htransparent calls x hx
    have hr : r.Transparent := htransparent
    have hreporting := hr.reporting number
    refine Transparent.observed ?_
    simp only [calls, List.mem_cons, List.not_mem_nil, or_false] at hx
    obtain rfl | rfl | rfl | rfl := hx
    · exact hr.discover world text
    · exact hreporting.discover world text
    · exact hr.discoverConfig world c
    · exact hreporting.discoverConfig world c

/-- A provider of this library, a stub, one that tells of canned addresses and one that only fails.
Loggers that take no details, or only errors, get less of what is told. -/
theorem logging_observes_sample :
    let stub := Stub.provider 1 "" true (.ok ["10.0.0.1"])
    let canned : Provider := ⟨"", true, none, fun userAgent _ c => do
      Call.emit (.stub 2 c userAgent)
      Call.log .info "discover-static" "returning [\"10.0.0.2\"]"
      return ["10.0.0.2"]⟩
    let failing : Provider := ⟨"", false, none, fun _ _ _ =>
      Call.ofExcept (.error (.requestFailed "connection refused"))⟩
    let r : Registry := ⟨.ofList [("aws", Ec2.provider), ("fake", stub), ("static", canned),
      ("failing", failing)]⟩
    let x (name : String) := r.discoverConfig (World.offline []) (.ofList [("provider", name)])
    let told : Record := ⟨.info, Stub.target, "returning [\"10.0.0.1\"]"⟩
    let said : Record := ⟨.info, "discover-static", "returning [\"10.0.0.2\"]"⟩
    (∀ name p, r.get? name = some p → p.Transparent) ∧
      ((x "fake").run .everything).log =
        [⟨.debug, Stub.target, "called Some(\"fake\")"⟩, told] ∧
      ((x "fake").run (.upTo (some .info))).log = [told] ∧
      ((x "static").run (.upTo (some .info))).log = [said] ∧
      ((x "static").run (.upTo (some .error))).log = [] ∧
      ∀ name ∈ ["aws", "fake", "static", "failing"], ((x name).run .discard).log = [] ∧
        ((x name).run .discard).result = ((x name).run .everything).result := by
  intro stub canned failing r x told said
  have hobserves (name : String) := logging_observes r String.length (World.offline []) ""
    (.ofList [("provider", name)])
  obtain ⟨hbuiltin, hstub, -⟩ := hobserves "fake"
  have hr : ∀ name p, r.get? name = some p → p.Transparent := by
    intro name p registered
    have hrow : (name, p) ∈ [("aws", Ec2.provider), ("fake", stub), ("static", canned),
        ("failing", failing)] :=
      (Table.get?_ofList_eq_some_iff (by decide)).mp registered
    simp only [List.mem_cons, Prod.mk.injEq, List.not_mem_nil, or_false] at hrow
    obtain ⟨-, rfl⟩ | ⟨-, rfl⟩ | ⟨-, rfl⟩ | ⟨-, rfl⟩ := hrow
    · exact hbuiltin .aws _ rfl
    · exact hstub 1 (.ok ["10.0.0.1"]) _ rfl
    · exact fun _ _ _ => (silent_emit _).transparent.bind fun _ =>
        (writes_log_pure _ _ _ _).transparent
    · exact fun _ _ _ => transparent_ofExcept _
  have hcall (name : String) := (hobserves name).2.2 hr (x name) (by simp [x])
  have hfake : ((x "fake").run .everything).log =
      [⟨.debug, Stub.target, "called Some(\"fake\")"⟩, told] := by decide
  have hstatic : ((x "static").run .everything).log = [said] := by decide
  refine ⟨hr, hfake, ?_, ?_, ?_, fun name _ => ⟨(hcall name).2.2, ((hcall name).1 _ _).1⟩⟩
  · rw [(hcall "fake").2.1, hfake]
    decide
  · rw [(hcall "static").2.1, hstatic]
    decide
  · rw [(hcall "static").2.1, hstatic]
    decide

end NodeDiscovery
