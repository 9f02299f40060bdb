import NodeDiscovery.Discovery
import NodeDiscovery.Provider.Stub

/-! Registries as they are set up: whatever is registered and announced, in whatever order, each
name holds the provider that came first, and that one knows the last user agent it was told. -/
namespace NodeDiscovery

def Provider.told (p : Provider) (agents : List String) : Provider :=
  if p.identifies then { p with userAgent := agents.getLast?.or p.userAgent } else p

theorem Provider.told_nil (p : Provider) : p.told [] = p := by
  unfold Provider.told
  split <;> rfl

theorem Provider.told_cons (p : Provider) (agent : String) (agents : List String) :
    p.told (agent :: agents) = (p.setUserAgent agent).told agents := by
  unfold Provider.told Provider.setUserAgent
  by_cases h : p.identifies = true
  · cases agents with
    | nil => simp [h]
    | cons next rest => simp [h, List.getLast?_cons]
  · simp [h]

namespace Registry

structure Registration where
  name : String
  provider : Provider
  /-- The registry is handed on, so that it is lost if the registration fails. -/
  handsOn : Bool

def add (r : Registry) (entry : Registration) : Registry :=
  ⟨r.providers.insert entry.name entry.provider⟩

/-- The registry that is left when a registration was tried. -/
def Registration.next (entry : Registration) (r : Registry) : Option Registry :=
  match r.register entry.name entry.provider with
  | .ok s => some s
  | .error _ => if entry.handsOn then none else some r

inductive Step
  | register (entry : Registration)
  | setUserAgent (userAgent : String)

def Step.next (r : Registry) : Step → Option Registry
  | .register entry => entry.next r
  | .setUserAgent userAgent => some (r.setUserAgent userAgent)

def Step.userAgent? : Step → Option String
  | .register _ => none
  | .setUserAgent userAgent => some userAgent

def agents (steps : List Step) : List String := steps.filterMap Step.userAgent?

def run (r : Registry) : List Step → Option Registry
  | [] => some r
  | step :: steps => (step.next r).bind fun s => run s steps

/-- A step adds the provider under a name that is free by then, and the later ones follow. -/
def Adds (start : Registry) (steps : List Step) (name : String) (p : Provider)
    (later : List Step) : Prop :=
  ∃ before entry r, steps = before ++ .register entry :: later ∧ run start before = some r ∧
    entry.name ∉ r.names ∧ entry.name = name ∧ entry.provider = p

/-- The provider is the first one of its name: it was there at the start, or a step adds it. -/
def Joins (start : Registry) (steps : List Step) (name : String) (p : Provider)
    (later : List Step) : Prop :=
  (start.get? name = some p ∧ later = steps) ∨ Adds start steps name p later

section Step
variable {r s : Registry} {entry : Registration} {step : Step} {steps : List Step}
  {name : String} {p q : Provider} {later : List Step}

theorem mem_names_iff : name ∈ r.names ↔ (r.get? name).isSome := Table.isSome_get?_iff.symm

theorem get?_add (r : Registry) (entry : Registration) (name : String) :
    (r.add entry).get? name = if name = entry.name then some entry.provider else r.get? name :=
  Table.get?_insert ..

theorem mem_names_add : name ∈ (r.add entry).names ↔ name = entry.name ∨ name ∈ r.names := by
  rw [mem_names_iff, mem_names_iff, get?_add]
  by_cases h : name = entry.name <;> simp [h]

theorem ext_get? (h : ∀ name, r.get? name = s.get? name) : r = s :=
  congrArg Registry.mk (Table.ext_get? h)

theorem register_of_free (h : entry.name ∉ r.names) :
    r.register entry.name entry.provider = .ok (r.add entry) := by
  have hfree : ¬ r.providers.contains entry.name = true := fun hmem => h (mem_names_iff.mpr hmem)
  rw [register, if_neg hfree]
  rfl

theorem Registration.next_eq (entry : Registration) (r : Registry) :
    entry.next r = if entry.name ∈ r.names then if entry.handsOn then none else some r
      else some (r.add entry) := by
  unfold Registration.next
  by_cases hmem : entry.name ∈ r.names
  · rw [register_eq_error_iff.mpr ⟨hmem, rfl⟩, if_pos hmem]
  · rw [register_of_free hmem, if_neg hmem]

/-- One step keeps what a name holds, with the user agent it may tell of, or adds a provider. -/
theorem Step.get?_next (h : step.next r = some s) (steps : List Step) (name : String)
    (q : Provider) :
    (∃ p, s.get? name = some p ∧ q = p.told (agents steps)) ↔
      (∃ p, r.get? name = some p ∧ q = p.told (agents (step :: steps))) ∨
        ∃ entry, step = .register entry ∧ entry.name ∉ r.names ∧ entry.name = name ∧
          q = entry.provider.told (agents steps) := by
  cases step with
  | setUserAgent userAgent =>
    obtain rfl : r.setUserAgent userAgent = s := Option.some.inj h
    have hagents : agents (.setUserAgent userAgent :: steps) = userAgent :: agents steps := rfl
    simp only [get?_setUserAgent, hagents, Provider.told_cons, reduceCtorEq, false_and,
      exists_false, or_false, Option.map_eq_some_iff]
    constructor
    · rintro ⟨_, ⟨p, hp, rfl⟩, hq⟩
      exact ⟨p, hp, hq⟩
    · rintro ⟨p, hp, hq⟩
      exact ⟨_, ⟨p, hp, rfl⟩, hq⟩
  | register entry =>
    have hagents : agents (.register entry :: steps) = agents steps := rfl
    rw [hagents]
    have hnext : entry.next r = some s := h
    rw [Registration.next_eq] at hnext
    by_cases hmem : entry.name ∈ r.names
    · rw [if_pos hmem] at hnext
      obtain rfl : r = s := by
        split at hnext
        · cases hnext
        · exact Option.some.inj hnext
      constructor
      · exact .inl
      · rintro (hp | ⟨_, hentry, hfree, -, -⟩)
        · exact hp
        · cases hentry
          exact absurd hmem hfree
    · rw [if_neg hmem] at hnext
      obtain rfl := Option.some.inj hnext
      rw [get?_add]
      constructor
      · rintro ⟨p, hp, hq⟩
        split at hp
        · next hname =>
          obtain rfl := Option.some.inj hp
          exact .inr ⟨entry, rfl, hmem, hname.symm, hq⟩
        · exact .inl ⟨p, hp, hq⟩
      · rintro (⟨p, hp, hq⟩ | ⟨_, hentry, -, rfl, hq⟩)
        · have hname : name ≠ entry.name := by
            rintro rfl
            exact hmem (mem_names_iff.mpr (Option.isSome_of_eq_some hp))
          rw [if_neg hname]
          exact ⟨p, hp, hq⟩
        · cases hentry
          rw [if_pos rfl]
          exact ⟨entry.provider, rfl, hq⟩

theorem adds_cons_iff (h : step.next r = some s) :
    Adds r (step :: steps) name p later ↔
      (∃ entry, step = .register entry ∧ entry.name ∉ r.names ∧ entry.name = name ∧
        entry.provider = p ∧ later = steps) ∨ Adds s steps name p later := by
  constructor
  · rintro ⟨before, entry, r', hsteps, hrun, hadds⟩
    cases before with
    | nil =>
      obtain ⟨rfl, rfl⟩ := List.cons.inj hsteps
      obtain rfl : r = r' := Option.some.inj hrun
      obtain ⟨hfree, hname, hp⟩ := hadds
      exact .inl ⟨entry, rfl, hfree, hname, hp, rfl⟩
    | cons first before =>
      obtain ⟨rfl, rfl⟩ := List.cons.inj hsteps
      rw [run, h] at hrun
      exact .inr ⟨before, entry, r', rfl, hrun, hadds⟩
  · rintro (⟨entry, rfl, hfree, hname, hp, rfl⟩ | ⟨before, entry, r', rfl, hrun, hadds⟩)
    · exact ⟨[], entry, r, rfl, rfl, hfree, hname, hp⟩
    · refine ⟨step :: before, entry, r', rfl, ?_, hadds⟩
      rw [run, h]
      exact hrun

theorem Registration.next_comm {other : Registration} (hne : entry.name ≠ other.name)
    (r : Registry) : (entry.next r).bind other.next = (other.next r).bind entry.next := by
  have hadd : (r.add entry).add other = (r.add other).add entry := by
    refine ext_get? fun name => ?_
    simp only [get?_add]
    by_cases h : name = entry.name
    · simp [h, hne]
    · simp [h]
  have hfirst : other.name ∈ (r.add entry).names ↔ other.name ∈ r.names := by
    simp [mem_names_add, hne.symm]
  have hsecond : entry.name ∈ (r.add other).names ↔ entry.name ∈ r.names := by
    simp [mem_names_add, hne]
  rw [entry.next_eq r, other.next_eq r]
  by_cases hentry : entry.name ∈ r.names <;> by_cases hother : other.name ∈ r.names
  · cases h : entry.handsOn <;> cases h' : other.handsOn <;>
      simp [Registration.next_eq, hentry, hother, h, h']
  · cases h : entry.handsOn <;> simp [Registration.next_eq, hentry, hother, hsecond, h]
  · cases h : other.handsOn <;> simp [Registration.next_eq, hentry, hother, hfirst, h]
  · simp [Registration.next_eq, hentry, hother, hfirst, hsecond, hadd]

end Step

section Run
variable {start r : Registry} {steps : List Step}

/-- What a name holds after some steps is the first provider of that name, told of the user agents
that came later. -/
theorem get?_run (h : run start steps = some r) {name : String} {q : Provider} :
    r.get? name = some q ↔
      ∃ p later, Joins start steps name p later ∧ q = p.told (agents later) := by
  -- Over the steps; the first one says what the second registry holds.
  induction steps generalizing start with
  | nil =>
    obtain rfl : start = r := Option.some.inj h
    have hnone (p : Provider) (later : List Step) : ¬ Adds start [] name p later := by
      rintro ⟨before, entry, _, hsteps, -⟩
      cases before <;> cases hsteps
    constructor
    · intro hq
      exact ⟨q, [], .inl ⟨hq, rfl⟩, q.told_nil.symm⟩
    · rintro ⟨p, later, ⟨hp, rfl⟩ | hadds, rfl⟩
      · rw [hp]
        exact congrArg some p.told_nil.symm
      · exact absurd hadds (hnone p later)
  | cons step steps ih =>
    rw [run] at h
    obtain ⟨s, hnext, hrun⟩ := Option.bind_eq_some_iff.mp h
    have hstep := Step.get?_next hnext steps name q
    rw [ih hrun]
    constructor
    · rintro ⟨p, later, ⟨hp, rfl⟩ | hadds, hq⟩
      · obtain ⟨p, hp, hq⟩ | ⟨entry, hentry, hfree, hname, hq⟩ := hstep.mp ⟨p, hp, hq⟩
        · exact ⟨p, _, .inl ⟨hp, rfl⟩, hq⟩
        · exact ⟨entry.provider, later,
            .inr ((adds_cons_iff hnext).mpr (.inl ⟨entry, hentry, hfree, hname, rfl, rfl⟩)), hq⟩
      · exact ⟨p, later, .inr ((adds_cons_iff hnext).mpr (.inr hadds)), hq⟩
    · rintro ⟨p, later, ⟨hp, rfl⟩ | hadds, hq⟩
      · obtain ⟨p, hp, hq⟩ := hstep.mpr (.inl ⟨p, hp, hq⟩)
        exact ⟨p, steps, .inl ⟨hp, rfl⟩, hq⟩
      · obtain ⟨entry, hentry, hfree, hname, rfl, rfl⟩ | hadds := (adds_cons_iff hnext).mp hadds
        · obtain ⟨p, hp, hq⟩ := hstep.mpr (.inr ⟨entry, hentry, hfree, hname, hq⟩)
          exact ⟨p, later, .inl ⟨hp, rfl⟩, hq⟩
        · exact ⟨p, later, .inr hadds, hq⟩

/-- Registrations under distinct names lead to the same registry in any order. -/
theorem run_perm {entries entries' : List Registration} (h : entries.Perm entries')
    (hnodup : (entries.map Registration.name).Nodup) (start : Registry) :
    run start (entries'.map .register) = run start (entries.map .register) := by
  induction h generalizing start with
  | nil => rfl
  | cons entry _ ih =>
    simp only [List.map_cons, run, Step.next]
    rw [List.map_cons, List.nodup_cons] at hnodup
    exact congrArg _ (funext fun s => ih hnodup.2 s)
  | swap entry other rest =>
    have hne : entry.name ≠ other.name := by
      simp only [List.map_cons, List.nodup_cons, List.mem_cons, not_or] at hnodup
      exact fun h => hnodup.1.1 h.symm
    simp only [List.map_cons, run, Step.next]
    rw [← Option.bind_assoc, ← Option.bind_assoc, Registration.next_comm hne]
  | trans first _ ih ih' =>
    have hmiddle := (first.map Registration.name).nodup_iff.mp hnodup
    rw [ih' hmiddle, ih hnodup]

end Run

theorem userAgent_of_standard {name : String} {p : Provider} (h : standard.get? name = some p) :
    p.userAgent = none := by
  have hall : ∀ row ∈ standard.providers.rows, row.2.userAgent = none := by decide
  exact hall (name, p) (Table.get?_eq_some_iff.mp h)

/-- A registry that was set up in some steps lists its names in order, and each name holds the first
provider that was registered under it, with the user agent that it was last told. Registering fails
just where the name is taken, and then changes nothing or loses the registry. The order of
registrations under distinct names is not to be seen in the registry, nor in what it does. -/
theorem run_keeps_first (start : Registry) :
    (∀ steps r, run start steps = some r →
      r.names.Pairwise (· < ·) ∧ r.names.length = r.size ∧
      (∀ name, (r.get? name).isSome ↔ name ∈ r.names) ∧
      (∀ name q, r.get? name = some q ↔
        ∃ p later, Joins start steps name p later ∧ q = p.told (agents later)) ∧
      ∀ entry : Registration,
        (∀ e, r.register entry.name entry.provider = .error e ↔
          entry.name ∈ r.names ∧ e = .duplicateProvider entry.name) ∧
        (entry.name ∈ r.names → entry.next r = if entry.handsOn then none else some r) ∧
        (entry.name ∉ r.names →
          ∃ s, r.register entry.name entry.provider = .ok s ∧ entry.next r = some s)) ∧
    (∀ name p, standard.get? name = some p → p.userAgent = none) ∧
    ∀ entries entries' : List Registration, entries.Perm entries' →
      (entries.map Registration.name).Nodup →
      run start (entries'.map .register) = run start (entries.map .register) := by
  refine ⟨fun steps r hrun => ?_, fun _ _ => userAgent_of_standard,
    fun _ _ hperm hnodup => run_perm hperm hnodup start⟩
  refine ⟨r.names_ascending, r.providers.length_names, fun _ => mem_names_iff.symm,
    fun _ _ => get?_run hrun, fun entry => ⟨fun _ => register_eq_error_iff, fun htaken => ?_,
      fun hfree => ⟨_, register_of_free hfree, ?_⟩⟩⟩
  · rw [Registration.next_eq, if_pos htaken]
  · rw [Registration.next_eq, if_neg hfree]

/-- The second provider of a name does not get in, and the first one is told all that follows. -/
theorem run_keeps_first_sample :
    let first := Stub.provider 1 "" true (.ok [])
    let second := Stub.provider 2 "" true (.ok [])
    let steps : List Step := [.register ⟨"x", first, false⟩, .setUserAgent "a",
      .register ⟨"x", second, false⟩, .setUserAgent "b", .register ⟨"y", second, true⟩]
    ∃ r, run .empty steps = some r ∧ r.names = ["x", "y"] ∧
      r.get? "x" = some (first.setUserAgent "b") ∧
      run .empty [.register ⟨"y", second, true⟩, .register ⟨"x", first, true⟩] =
        run .empty [.register ⟨"x", first, true⟩, .register ⟨"y", second, true⟩] := by
  intro first second steps
  obtain ⟨hruns, -, hperm⟩ := run_keeps_first .empty
  have hrun : ∃ r, run .empty steps = some r ∧ r.names = ["x", "y"] := ⟨_, rfl, by decide⟩
  obtain ⟨r, hrun, hnames⟩ := hrun
  refine ⟨r, hrun, hnames, ?_, ?_⟩
  · have hjoins : Joins .empty steps "x" first steps.tail :=
      .inr ⟨[], ⟨"x", first, false⟩, .empty, rfl, rfl, by decide, rfl, rfl⟩
    exact ((hruns steps r hrun).2.2.2.1 "x" _).mpr ⟨first, steps.tail, hjoins, rfl⟩
  · exact hperm [⟨"x", first, true⟩, ⟨"y", second, true⟩] [⟨"y", second, true⟩, ⟨"x", first, true⟩]
      (.swap ..) (by decide)

end Registry
end NodeDiscovery
