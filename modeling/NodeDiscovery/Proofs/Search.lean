import NodeDiscovery.Proofs.Call
import NodeDiscovery.Provider.Basic
import NodeDiscovery.Provider.Options

/-! The shape that all searches have. What to ask for is settled from the options, it is asked for,
and what came is told of. What relates two searches, or a search to its log, follows from what
relates their parts, and is proved for the shape once. -/
namespace NodeDiscovery

@[simp] def ProviderError.isArgument : ProviderError → Bool
  | .invalidProvider _ | .malformedArgument .. | .missingArgument _ => true
  | .requestFailed _ => false

namespace Call
variable {ε α β : Type} {x : Call ProviderError α} {f : α → Call ProviderError β}

/-- A call that fails for nothing but an answer. -/
def Accepts (x : Call ProviderError α) : Prop :=
  ∀ logger e, (x.outcome logger).1 = .error e → e.isArgument = false

theorem Quiet.accepts {a : α} (h : x.Quiet a) : x.Accepts := by
  intro logger e he
  rw [h logger] at he
  cases he

theorem accepts_mapError {x : Call ε α} {g : ε → ProviderError}
    (h : ∀ fault, (g fault).isArgument = false) : (x.mapError g).Accepts := by
  intro logger e he
  rw [outcome_mapError] at he
  cases hresult : (x.outcome logger).1 with
  | error fault =>
    rw [hresult] at he
    obtain rfl := Except.error.inj he
    exact h fault
  | ok a =>
    rw [hresult] at he
    cases he

theorem Accepts.bind (hx : x.Accepts) (hf : ∀ a, (f a).Accepts) : (x >>= f).Accepts := by
  intro logger e he
  obtain ⟨result, events, houtcome⟩ : ∃ r e, x.outcome logger = (r, e) := ⟨_, _, rfl⟩
  cases result with
  | error fault =>
    rw [outcome_bind_error houtcome] at he
    obtain rfl := Except.error.inj he
    exact hx logger fault (by rw [houtcome])
  | ok a =>
    rw [outcome_bind_ok houtcome] at he
    exact hf a logger e he

theorem accepts_emit (event : Event) : (emit event : Call ProviderError Unit).Accepts := by
  intro logger e he
  cases he

end Call

/-- A search in its three parts, with what each of them keeps to: settling what to ask for does
nothing but write records, asking for it tells nothing, and neither asking nor telling of what came
finds fault with an argument. -/
structure Search where
  name : String
  Plan : Type
  Found : Type
  settle : Environment → Config → Call ProviderError Plan
  ask : World → Plan → Call ProviderError Found
  /-- Tells of what was found, for which there may be more to ask. -/
  tell : Plan → Found → Call ProviderError (List String)
  plain_settle : ∀ env c, (settle env c).Plain
  silent_ask : ∀ world plan, (ask world plan).Silent
  accepts_ask : ∀ world plan, (ask world plan).Accepts
  transparent_tell : ∀ plan found, (tell plan found).Transparent
  accepts_tell : ∀ plan found, (tell plan found).Accepts

namespace Search
variable {s : Search} {world world' : World} {c c' : Config}

def find (s : Search) (world : World) (c : Config) : Call ProviderError (List String) := do
  Call.ofExcept (c.expectProvider s.name)
  let plan ← s.settle world.env c
  let found ← s.ask world plan
  s.tell plan found

theorem find_of_wrong (h : c.provider ≠ some s.name) (world : World) :
    s.find world c = Call.ofExcept (.error (.invalidProvider (c.provider.getD ""))) := by
  rw [find, Config.expectProvider, if_neg h]
  rfl

theorem find_of_provider (h : c.provider = some s.name) (world : World) :
    s.find world c = (do
      let plan ← s.settle world.env c
      let found ← s.ask world plan
      s.tell plan found) := by
  rw [find, Config.expectProvider_eq_ok_iff.mpr h]
  exact pure_bind () _

theorem outcome_find (hprovider : c.provider = some s.name) {plan : s.Plan}
    (hplan : (s.settle world.env c).Quiet plan) (logger : Logger) :
    (s.find world c).outcome logger = (s.ask world plan >>= s.tell plan).outcome logger := by
  rw [find_of_provider hprovider, hplan.outcome_bind]

/-- A search is refused by its arguments, or it is settled what to ask for. -/
theorem refuses_or_settles (s : Search) (world : World) (c : Config) :
    (s.find world c).Refuses ∨
      c.provider = some s.name ∧ ∃ plan, (s.settle world.env c).Quiet plan := by
  by_cases hprovider : c.provider = some s.name
  · refine (s.plain_settle world.env c).refuses_or_quiet.imp (fun h => ?_) fun h => ⟨hprovider, h⟩
    rw [find_of_provider hprovider]
    exact h.bind _
  · left
    rw [find_of_wrong hprovider]
    exact Call.refuses_ofExcept _

theorem of_find_eq_ok {logger : Logger} {addresses : List String}
    (h : ((s.find world c).run logger).result = .ok addresses) :
    c.provider = some s.name ∧ ∃ plan found, (s.settle world.env c).Quiet plan ∧
      ((s.ask world plan).run logger).result = .ok found ∧
      ((s.tell plan found).run logger).result = .ok addresses := by
  obtain ⟨_, hprovider, h⟩ := Call.run_bind_eq_ok h
  obtain ⟨plan, hplan, h⟩ := Call.run_bind_eq_ok h
  obtain ⟨found, hfound, h⟩ := Call.run_bind_eq_ok h
  exact ⟨Config.expectProvider_eq_ok_iff.mp hprovider, plan, found,
    (s.plain_settle world.env c).quiet_of_ok hplan, hfound, h⟩

theorem find_congr (hprovider : c'.provider = c.provider)
    (hsettle : s.settle world'.env c' = s.settle world.env c)
    (hask : ∀ plan, s.ask world' plan >>= s.tell plan = s.ask world plan >>= s.tell plan) :
    s.find world' c' = s.find world c := by
  rw [find, find, Config.expectProvider, Config.expectProvider, hprovider, hsettle]
  simp only [hask]

theorem transparent_find (s : Search) (world : World) (c : Config) :
    (s.find world c).Transparent :=
  (Call.transparent_ofExcept _).bind fun _ =>
    (s.plain_settle world.env c).transparent.bind fun plan =>
    (s.silent_ask world plan).transparent.bind fun found => s.transparent_tell plan found

end Search

end NodeDiscovery
