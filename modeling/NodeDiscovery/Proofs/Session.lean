import NodeDiscovery.Proofs.Call
import NodeDiscovery.Listing
import NodeDiscovery.Provider.Error

/-! Sessions: a call puts questions to a server, each where the answer before it leads, as long as
they are answered. The n-th reply of a script is for the n-th question; where the script ends, the
server has no more to say. A call whose outcome is explained by a session is all or nothing. -/
namespace NodeDiscovery

/-- What there is to a question `ι`, with the reply `ρ` that it gets. -/
structure Service (ι ρ φ : Type) where
  /-- What the server notices. -/
  events : ι → ρ → List Event
  /-- What is wrong, if the question is not answered. -/
  fault? : ι → ρ → Option φ
  /-- Where the answer leads: the question after this one, if there is another. -/
  next : ι → ρ → Option ι
  /-- The reply of a server that has no more to say. -/
  spent : ρ
  spent_faulty : ∀ q, (fault? q spent).isSome = true

namespace Service
variable {ι ρ φ σ π ε ε' α β γ : Type} {s : Service ι ρ φ} {tell : ι → φ → ε}

def reply (s : Service ι ρ φ) (script : List ρ) (i : Nat) : ρ := script.getD i s.spent

theorem reply_succ (s : Service ι ρ φ) (script : List ρ) (i : Nat) :
    s.reply script (i + 1) = s.reply script.tail i := by
  cases script <;> simp [reply]

/-- From the question that is due on, questions are put, and noticed, until one is not answered,
which ends the session in failure, or the session is left; the rest of the script is left for later,
and so is the question that is due then. -/
inductive Session (s : Service ι ρ φ) (tell : ι → φ → ε) :
    List ρ → Option ι → List ι → List Event → Except ε Unit → List ρ → Option ι → Prop
  | done (script : List ρ) (due : Option ι) : Session s tell script due [] [] (.ok ()) script due
  | failed {script : List ρ} {q : ι} {fault : φ}
      (wrong : s.fault? q (s.reply script 0) = some fault) :
      Session s tell script (some q) [q] (s.events q (s.reply script 0)) (.error (tell q fault))
        script.tail none
  | answered {script later : List ρ} {q : ι} {asked : List ι} {ends : Except ε Unit}
      {events : List Event} {due : Option ι} (right : s.fault? q (s.reply script 0) = none)
      (rest : Session s tell script.tail (s.next q (s.reply script 0)) asked events ends later
        due) :
      Session s tell script (some q) (q :: asked) (s.events q (s.reply script 0) ++ events) ends
        later due

namespace Session
variable {script later later' : List ρ} {asked more : List ι} {events events' : List Event}
  {ends : Except ε Unit} {due due' due'' : Option ι}

theorem append (h : s.Session tell script due asked events (.ok ()) later due')
    (h' : s.Session tell later due' more events' ends later' due'') :
    s.Session tell script due (asked ++ more) (events ++ events') ends later' due'' := by
  generalize hgood : (.ok () : Except ε Unit) = good at h
  induction h with
  | done script due => exact h'
  | failed wrong => cases hgood
  | answered right rest ih =>
    rw [List.append_assoc]
    exact .answered right (ih h' hgood)

theorem events_eq (h : s.Session tell script due asked events ends later due') :
    events = (asked.mapIdx fun i q => s.events q (s.reply script i)).flatten := by
  induction h with
  | done script due => rfl
  | failed wrong => simp
  | answered right rest ih =>
    simp only [List.mapIdx_cons, List.flatten_cons, reply_succ]
    rw [← ih]

theorem due_of_error {e : ε} (h : s.Session tell script due asked events ends later due')
    (hends : ends = .error e) : due' = none := by
  induction h with
  | done script due => cases hends
  | failed wrong => rfl
  | answered right rest ih => exact ih hends

theorem head?_eq (h : s.Session tell script due asked events ends later none) :
    asked.head? = due := by
  cases h <;> rfl

/-- After each question that is answered comes the one that the answer leads to, or none if it leads
to none. -/
theorem follows (h : s.Session tell script due asked events ends later due') (hdue : due' = none)
    {i : Nat} {q : ι} (hasked : asked[i]? = some q)
    (hright : s.fault? q (s.reply script i) = none) :
    asked[i + 1]? = s.next q (s.reply script i) := by
  induction h generalizing i with
  | done script due => simp at hasked
  | failed wrong =>
    cases i with
    | zero =>
      obtain rfl := Option.some.inj hasked
      rw [wrong] at hright
      cases hright
    | succ i => simp at hasked
  | answered right rest ih =>
    cases i with
    | zero =>
      obtain rfl := Option.some.inj hasked
      subst hdue
      rw [List.getElem?_cons_succ, ← List.head?_eq_getElem?]
      exact rest.head?_eq
    | succ i =>
      rw [reply_succ] at hright ⊢
      exact ih hdue hasked hright

/-- A question that is not answered is the last one, and its fault ends the session. -/
theorem stops (h : s.Session tell script due asked events ends later due') {i : Nat} {q : ι}
    {fault : φ} (hasked : asked[i]? = some q)
    (hfault : s.fault? q (s.reply script i) = some fault) :
    i + 1 = asked.length ∧ ends = .error (tell q fault) := by
  induction h generalizing i with
  | done script due => simp at hasked
  | failed wrong =>
    cases i with
    | zero =>
      obtain rfl := Option.some.inj hasked
      rw [wrong] at hfault
      obtain rfl := Option.some.inj hfault
      exact ⟨rfl, rfl⟩
    | succ i => simp at hasked
  | answered right rest ih =>
    cases i with
    | zero =>
      obtain rfl := Option.some.inj hasked
      rw [right] at hfault
      cases hfault
    | succ i =>
      rw [reply_succ] at hfault
      obtain ⟨hlast, hends⟩ := ih hasked hfault
      exact ⟨congrArg (· + 1) hlast, hends⟩

theorem succeeds (h : s.Session tell script due asked events ends later due')
    (hright : ∀ i q, asked[i]? = some q → s.fault? q (s.reply script i) = none) :
    ends = .ok () := by
  induction h with
  | done script due => rfl
  | failed wrong =>
    have hnone := hright 0 _ rfl
    rw [wrong] at hnone
    cases hnone
  | answered right rest ih =>
    refine ih fun i q hi => ?_
    rw [← reply_succ]
    exact hright (i + 1) q hi

end Session

/-- The outcome of a call is that of a session, in which `asked` was asked from the question that
was due on. Where the call succeeds, `Q` holds of what it finds, the replies that are left, and the
question that is due then. -/
def Explains (s : Service ι ρ φ) (tell : ι → φ → ε) (script : List ρ) (due : Option ι)
    (asked : List ι) (o : Except ε α × List Event) (Q : α → List ρ → Option ι → Prop) : Prop :=
  ∃ later due', s.Session tell script due asked o.2 (o.1.map fun _ => ()) later due' ∧
    ∀ a, o.1 = .ok a → Q a later due'

/-- What a single question comes to, and the question that what is found leads to. -/
structure Settles (s : Service ι ρ φ) (tell : ι → φ → ε) (leads : α → Option ι) (q : ι) (r : ρ)
    (o : Except ε α × List Event) : Prop where
  events : o.2 = s.events q r
  fails : ∀ fault, s.fault? q r = some fault → o.1 = .error (tell q fault)
  succeeds : s.fault? q r = none → ∃ a, o.1 = .ok a ∧ s.next q r = leads a

namespace Settles
variable {leads : α → Option ι} {q : ι} {r : ρ} {o : Except ε α × List Event}

theorem mapError {tell' : ι → φ → ε'} (h : s.Settles tell leads q r o) {f : ε → ε'}
    (hf : ∀ fault, f (tell q fault) = tell' q fault) :
    s.Settles tell' leads q r (o.1.mapError f, o.2) := by
  refine ⟨h.events, fun fault hfault => ?_, fun hnone => ?_⟩
  · rw [h.fails fault hfault, ← hf]
    rfl
  · obtain ⟨a, ha, hnext⟩ := h.succeeds hnone
    exact ⟨a, by rw [ha]; rfl, hnext⟩

theorem map (h : s.Settles tell leads q r o) (g : α → β) {leads' : β → Option ι}
    (hleads : ∀ a, leads a = leads' (g a)) : s.Settles tell leads' q r (o.1.map g, o.2) := by
  refine ⟨h.events, fun fault hfault => ?_, fun hnone => ?_⟩
  · rw [h.fails fault hfault]
    rfl
  · obtain ⟨a, ha, hnext⟩ := h.succeeds hnone
    exact ⟨g a, by rw [ha]; rfl, hnext.trans (hleads a)⟩

theorem explains (script : List ρ) (h : s.Settles tell leads q (s.reply script 0) o) :
    s.Explains tell script (some q) [q] o fun a later due =>
      later = script.tail ∧ due = leads a := by
  cases hfault : s.fault? q (s.reply script 0) with
  | some fault =>
    refine ⟨script.tail, none, ?_, fun a ha => ?_⟩
    · rw [h.events, h.fails fault hfault]
      exact .failed hfault
    · rw [h.fails fault hfault] at ha
      cases ha
  | none =>
    obtain ⟨a, ha, hnext⟩ := h.succeeds hfault
    refine ⟨script.tail, leads a, ?_, fun b hb => ?_⟩
    · rw [h.events, ha, ← List.append_nil (s.events q _), ← hnext]
      exact .answered hfault (.done script.tail _)
    · rw [ha] at hb
      exact ⟨rfl, congrArg leads (Except.ok.inj hb)⟩

end Settles

namespace Explains
variable {script : List ρ} {asked : List ι} {due : Option ι} {o : Except ε α × List Event}
  {Q : α → List ρ → Option ι → Prop} {R : β → List ρ → Option ι → Prop}

theorem map (h : s.Explains tell script due asked o Q) (g : α → β)
    (hg : ∀ a later due', Q a later due' → R (g a) later due') :
    s.Explains tell script due asked (o.1.map g, o.2) R := by
  obtain ⟨later, due', hsession, hQ⟩ := h
  obtain ⟨result, events⟩ := o
  cases result with
  | error e => exact ⟨later, due', hsession, fun b hb => by cases hb⟩
  | ok a => exact ⟨later, due', hsession, fun b hb => Except.ok.inj hb ▸ hg a later due' (hQ a rfl)⟩

theorem bind {x : Call ε α} {f : α → Call ε β} {logger : Logger}
    (hx : s.Explains tell script due asked (x.outcome logger) Q)
    (hf : ∀ a later due', Q a later due' →
      ∃ more, s.Explains tell later due' more ((f a).outcome logger) R) :
    ∃ more, s.Explains tell script due (asked ++ more) ((x >>= f).outcome logger) R := by
  obtain ⟨later, due', hsession, hQ⟩ := hx
  obtain ⟨result, events, houtcome⟩ : ∃ r e, x.outcome logger = (r, e) := ⟨_, _, rfl⟩
  rw [houtcome] at hsession hQ
  cases result with
  | error e =>
    refine ⟨[], later, due', ?_, fun b hb => ?_⟩
    · rw [Call.outcome_bind_error houtcome, List.append_nil]
      exact hsession
    · rw [Call.outcome_bind_error houtcome] at hb
      cases hb
  | ok a =>
    obtain ⟨more, later', due'', hmore, hR⟩ := hf a later due' (hQ a rfl)
    refine ⟨more, later', due'', ?_, ?_⟩
    · rw [Call.outcome_bind_ok houtcome]
      exact hsession.append hmore
    · rw [Call.outcome_bind_ok houtcome]
      exact hR

end Explains

/-- Reading a listing is a session that begins with the question for the page at its cursor. What
the question is may depend on the pages that came before, and so may the one after the last page. -/
theorem explains_pages {s : Service ι ρ φ} {l : Listing ρ φ σ π} {logger : Logger}
    {tell : ι → φ → ε} {f : φ → ε} (question : List π → σ → ι) (last : List π → Option ι)
    (hspent : l.spent = s.spent)
    (hfetch : ∀ seen cursor r, s.Settles tell
      (fun page =>
        ((l.next cursor page).map (question (seen ++ [page]))).or (last (seen ++ [page])))
      (question seen cursor) r (((l.fetch cursor r).mapError f).outcome logger))
    (seen : List π) (cursor : σ) (script : List ρ) :
    ∃ asked, s.Explains tell script (some (question seen cursor)) asked
      (((l.pages cursor script).mapError f).outcome logger)
        fun found later due => found.2 = later ∧ due = last (seen ++ found.1) := by
  -- Every page uses up one reply; after the last one a single question more ends the listing.
  induction script generalizing seen cursor with
  | nil =>
    obtain ⟨fault, hfault⟩ := Option.isSome_iff_exists.mp (s.spent_faulty (question seen cursor))
    have hone := hfetch seen cursor s.spent
    have hfails : ((l.fetch cursor s.spent).mapError f).outcome logger =
        (.error (tell (question seen cursor) fault), s.events (question seen cursor) s.spent) :=
      Prod.ext (hone.fails fault hfault) hone.events
    rw [Listing.pages, hspent, Call.mapError_bind, Call.outcome_bind_error hfails]
    have hsession : s.Session tell [] (some (question seen cursor)) _ _ _ _ _ := .failed hfault
    exact ⟨_, _, none, hsession, nofun⟩
  | cons r script ih =>
    have hone := (hfetch seen cursor r).explains (r :: script)
    rw [Listing.pages, Call.mapError_bind]
    refine (hone.bind fun page later due hleads => ?_).elim fun more hall => ⟨_, hall⟩
    obtain ⟨rfl, rfl⟩ := hleads
    cases l.next cursor page with
    | none =>
      exact ⟨[], _, _, .done _ _, fun found hfound => by
        obtain rfl := Except.ok.inj hfound
        exact ⟨rfl, rfl⟩⟩
    | some cursor' =>
      obtain ⟨more, hmore⟩ := ih (seen ++ [page]) cursor'
      refine ⟨more, ?_⟩
      have hlater (found : List π × List ρ) :
          ((pure (page :: found.1, found.2) : Call φ (List π × List ρ)).mapError f).Quiet
            (page :: found.1, found.2) := fun _ => rfl
      simp only [Call.mapError_bind]
      rw [Call.outcome_bind_quiet hlater]
      refine hmore.map _ fun found later due h => ⟨h.1, ?_⟩
      rw [h.2, List.append_assoc, List.singleton_append]

/-- A run is all or nothing: it puts the first question, and then always the one that the answer
leads to, and the server notices just these, with the n-th reply of the script for the n-th of them.
A question that is not answered is the last one, and its fault is the failure of the run; if all are
answered the run succeeds. -/
structure AllOrNothing (s : Service ι ρ φ) (tell : ι → φ → String) (script : List ρ) (first : ι)
    (asked : List ι) (o : Except ProviderError (List String) × List Event) : Prop where
  begins : asked.head? = some first
  follows : ∀ i q, asked[i]? = some q → s.fault? q (s.reply script i) = none →
    asked[i + 1]? = s.next q (s.reply script i)
  events : o.2 = (asked.mapIdx fun i q => s.events q (s.reply script i)).flatten
  stops : ∀ i q fault, asked[i]? = some q → s.fault? q (s.reply script i) = some fault →
    i + 1 = asked.length ∧ o.1 = .error (.requestFailed (tell q fault))
  succeeds : (∀ i q, asked[i]? = some q → s.fault? q (s.reply script i) = none) →
    ∃ found, o.1 = .ok found

namespace AllOrNothing
variable {script : List ρ} {first : ι} {asked : List ι} {tell : ι → φ → String}
  {o : Except ProviderError (List String) × List Event}

/-- What is asked is settled by the replies: they are the questions each of which leads to the one
after it, up to one that is not answered. -/
theorem asked_eq (h : s.AllOrNothing tell script first asked o) {questions : List ι}
    (hfirst : questions.head? = some first)
    (hleads : ∀ i (hi : i < questions.length), questions[i + 1]? =
      if (s.fault? questions[i] (s.reply script i)).isSome then none
      else s.next questions[i] (s.reply script i)) : asked = questions := by
  refine List.ext_getElem? fun i => ?_
  induction i with
  | zero => rw [← List.head?_eq_getElem?, ← List.head?_eq_getElem?, h.begins, hfirst]
  | succ i ih =>
    by_cases hi : i < questions.length
    · have hasked : asked[i]? = some questions[i] := by rw [ih, List.getElem?_eq_getElem hi]
      rw [hleads i hi]
      cases hfault : s.fault? questions[i] (s.reply script i) with
      | some fault =>
        obtain ⟨hlast, -⟩ := h.stops i _ fault hasked hfault
        exact List.getElem?_eq_none (Nat.le_of_eq hlast.symm)
      | none => exact h.follows i _ hasked hfault
    · have hend : questions.length ≤ i := Nat.le_of_not_lt hi
      have hasked : asked.length ≤ i := by
        rw [← List.getElem?_eq_none_iff, ih, List.getElem?_eq_none hend]
      rw [List.getElem?_eq_none (Nat.le_succ_of_le hend),
        List.getElem?_eq_none (Nat.le_succ_of_le hasked)]

theorem of_fault (h : s.AllOrNothing tell script first asked o) (answered : List ι) (q : ι)
    (fault : φ) (hfirst : (answered ++ [q]).head? = some first)
    (hleads : ∀ i (hi : i < answered.length), s.fault? answered[i] (s.reply script i) = none ∧
      s.next answered[i] (s.reply script i) = (answered ++ [q])[i + 1]?)
    (hfault : s.fault? q (s.reply script answered.length) = some fault) :
    o = (.error (.requestFailed (tell q fault)),
      ((answered ++ [q]).mapIdx fun i q => s.events q (s.reply script i)).flatten) := by
  obtain rfl : asked = answered ++ [q] := by
    refine h.asked_eq hfirst fun i hi => ?_
    rcases Nat.lt_or_ge i answered.length with hbefore | hlast
    · obtain ⟨hnone, hnext⟩ := hleads i hbefore
      rw [List.getElem_append_left hbefore, hnone, hnext]
      rfl
    · obtain rfl : i = answered.length := by
        rw [List.length_append, List.length_singleton] at hi
        omega
      simp [hfault]
  exact Prod.ext (h.stops answered.length q fault List.getElem?_concat_length hfault).2 h.events

theorem of_answered (h : s.AllOrNothing tell script first asked o) (questions : List ι)
    (hfirst : questions.head? = some first)
    (hleads : ∀ i (hi : i < questions.length), s.fault? questions[i] (s.reply script i) = none ∧
      s.next questions[i] (s.reply script i) = questions[i + 1]?) :
    (∃ found, o.1 = .ok found) ∧
      o.2 = (questions.mapIdx fun i q => s.events q (s.reply script i)).flatten := by
  obtain rfl : asked = questions := h.asked_eq hfirst fun i hi => by
    obtain ⟨hnone, hnext⟩ := hleads i hi
    rw [hnone, hnext]
    rfl
  refine ⟨h.succeeds fun i q hq => ?_, h.events⟩
  obtain ⟨hi, rfl⟩ := List.getElem?_eq_some_iff.mp hq
  exact (hleads i hi).1

end AllOrNothing

theorem Explains.allOrNothing {script : List ρ} {first : ι} {asked : List ι} {tell : ι → φ → String}
    {o : Except ProviderError (List String) × List Event}
    {Q : List String → List ρ → Option ι → Prop}
    (h : s.Explains (fun q fault => .requestFailed (tell q fault)) script (some first) asked o Q)
    (hQ : ∀ found later due, Q found later due → due = none) :
    s.AllOrNothing tell script first asked o := by
  obtain ⟨later, due, hsession, hfound⟩ := h
  obtain ⟨result, events⟩ := o
  have hdue : due = none := by
    cases result with
    | error e => exact hsession.due_of_error rfl
    | ok found => exact hQ _ _ _ (hfound found rfl)
  subst hdue
  refine ⟨hsession.head?_eq, fun i q hasked hright => hsession.follows rfl hasked hright,
    hsession.events_eq, fun i q fault hasked hfault => ?_, fun hright => ?_⟩
  · obtain ⟨hlast, hends⟩ := hsession.stops hasked hfault
    cases result with
    | error e => exact ⟨hlast, congrArg Except.error (Except.error.inj hends)⟩
    | ok found => cases hends
  · have hends := hsession.succeeds hright
    cases result with
    | error e => cases hends
    | ok found => exact ⟨found, rfl⟩

/-- A search that reads a listing and picks its findings from the pages is all or nothing. -/
theorem allOrNothing_of_pages {s : Service σ ρ φ} {l : Listing ρ φ σ π} {logger : Logger}
    {text : φ → String} (hspent : l.spent = s.spent)
    (hfetch : ∀ cursor r, s.Settles (fun _ fault => fault) (l.next cursor) cursor r
      ((l.fetch cursor r).outcome logger))
    (cursor : σ) (script : List ρ) (collect : List π → γ) (pick : γ → List String) :
    let listed := (do
      let (pages, _) ← l.pages cursor script
      return collect pages : Call φ γ).outcome logger
    ∃ asked, s.AllOrNothing (fun _ => text) script cursor asked
      ((listed.1.mapError fun fault => ProviderError.requestFailed (text fault)).map pick,
        listed.2) := by
  intro listed
  let tell (fault : φ) : ProviderError := .requestFailed (text fault)
  have hlisted : listed = (((l.pages cursor script).outcome logger).1.map fun found =>
      collect found.1, ((l.pages cursor script).outcome logger).2) :=
    Call.outcome_bind_quiet (fun _ => Call.quiet_pure _) logger
  have htold (_ : List π) (cursor : σ) (r : ρ) : s.Settles (fun _ => tell)
      (fun page => ((l.next cursor page).map fun cursor => cursor).or none) cursor r
      (((l.fetch cursor r).mapError tell).outcome logger) := by
    simpa [Call.outcome_mapError] using (hfetch cursor r).mapError fun _ => rfl
  obtain ⟨asked, hpages⟩ := explains_pages (fun _ cursor => cursor) (fun _ => none) hspent htold []
    cursor script
  have hfound := hpages.map (fun found => pick (collect found.1)) (R := fun _ _ due => due = none)
    fun _ _ _ h => h.2
  refine ⟨asked, ?_⟩
  rw [hlisted]
  rw [Call.outcome_mapError] at hfound
  have hsame (pages : Except φ (List π × List ρ)) :
      ((pages.map fun found => collect found.1).mapError tell).map pick =
        (pages.mapError tell).map fun found => pick (collect found.1) := by
    cases pages <;> rfl
  simp only [← hsame] at hfound
  exact hfound.allOrNothing fun _ _ _ h => h

end Service
end NodeDiscovery
