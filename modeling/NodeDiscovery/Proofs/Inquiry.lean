import NodeDiscovery.Proofs.Ec2.Search
import NodeDiscovery.Proofs.Http.Service
import NodeDiscovery.Proofs.Listing

/-! Searches whose first question is not answered. What a search has told before its first response
shows by comparison with the same search in surroundings where there is none. -/
namespace NodeDiscovery

/-- The same surroundings, but for the services: they get the first request and send no response. -/
def World.mute (world : World) : World := { world with web := [.closed], ec2 := [.closed] }

namespace Call
variable {ε ε' α β γ : Type} {logger : Logger}

/-- The call asks something and tells nothing. If it succeeds, a call that puts the same first
question in vain has no more to show than that. -/
structure Inquires (x muted : Call ε α) : Prop where
  silent : x.Silent
  first : ∀ logger a, (x.run logger).result = .ok a → ∃ e event,
    muted.run logger = ⟨.error e, [], [event]⟩ ∧ (x.run logger).events.head? = some event

namespace Inquires
variable {x muted : Call ε α} {f g : α → Call ε β}

theorem bind (h : Inquires x muted) (hf : ∀ a, (f a).Silent) (g : α → Call ε β) :
    Inquires (x >>= f) (muted >>= g) where
  silent := h.silent.bind hf
  first := by
    intro logger b hb
    obtain ⟨a, ha, -⟩ := run_bind_eq_ok hb
    obtain ⟨e, event, hmuted, hevent⟩ := h.first logger a ha
    refine ⟨e, event, run_bind_error hmuted, ?_⟩
    rw [run_bind, ha]
    simp [List.head?_append, hevent]

theorem mapError (h : Inquires x muted) (tell : ε → ε') :
    Inquires (x.mapError tell) (muted.mapError tell) where
  silent := h.silent.mapError tell
  first := by
    intro logger a ha
    obtain ⟨e, event, hmuted, hevent⟩ := h.first logger a (run_mapError_eq_ok ha)
    refine ⟨tell e, event, ?_, hevent⟩
    rw [run_mapError, hmuted]
    rfl

theorem ofExcept_bind {r : Except ε α} (h : ∀ a, Inquires (f a) (g a)) :
    Inquires (ofExcept r >>= f) (ofExcept r >>= g) where
  silent := (silent_ofExcept r).bind fun a => (h a).silent
  first := by
    intro logger b hb
    obtain ⟨a, ha, hb⟩ := run_bind_eq_ok hb
    obtain rfl : r = .ok a := ha
    exact (h a).first logger b hb

theorem mapError_ofExcept_bind {r : Except ε' α} {tell : ε' → ε}
    (h : ∀ a, Inquires (f a) (g a)) :
    Inquires ((ofExcept r).mapError tell >>= f) ((ofExcept r).mapError tell >>= g) :=
  ofExcept_bind (r := r.mapError tell) h

end Inquires

/-- The call finds `a` and tells these records after its first response, where `muted` is the call
that gets none. -/
structure Reports (x muted : Call ε α) (a : α) (told : List Record) : Prop where
  result : (x.run .everything).result = .ok a
  log : (x.run .everything).log = (muted.run .everything).log ++ told
  unanswered : ∃ e event, (muted.run .everything).result = .error e ∧
    (muted.run .everything).events = [event] ∧ (x.run .everything).events.head? = some event

namespace Reports
variable {x muted : Call ε α} {f g : α → Call ε β} {a : α} {b : β} {told : List Record}

theorem of_inquires (h : Inquires x muted) (ha : (x.run .everything).result = .ok a)
    (hb : ((f a).run .everything).result = .ok b) (htold : ((f a).run .everything).log = told)
    (g : α → Call ε β) : Reports (x >>= f) (muted >>= g) b told := by
  obtain ⟨e, event, hmuted, hevent⟩ := h.first .everything a ha
  have hmuted := run_bind_error (f := g) hmuted
  refine ⟨?_, ?_, e, event, ?_, ?_, ?_⟩
  · rw [run_bind, ha]
    exact hb
  · -- Asking leaves no records, so all of them are from what follows, and the muted call has none.
    rw [run_bind, ha, hmuted]
    simp [h.silent.log_eq_nil .everything, htold]
  · rw [hmuted]
  · rw [hmuted]
  · rw [run_bind, ha]
    simp [List.head?_append, hevent]

theorem quiet_bind {k : γ} {x : Call ε γ} {f g : γ → Call ε β} (hx : x.Quiet k)
    (h : Reports (f k) (g k) b told) : Reports (x >>= f) (x >>= g) b told := by
  have hrun : x.run .everything = ⟨.ok k, (x.run .everything).log, []⟩ := by
    have houtcome := hx .everything
    rw [outcome, Prod.mk.injEq] at houtcome
    rw [← houtcome.1, ← houtcome.2]
  obtain ⟨hresult, hlog, e, event, hunanswered⟩ := h
  refine ⟨?_, ?_, e, event, ?_⟩
  · rw [run_bind_ok hrun]
    exact hresult
  · rw [run_bind_ok hrun, run_bind_ok hrun, hlog, List.append_assoc]
  · rw [run_bind_ok hrun, run_bind_ok hrun]
    simpa using hunanswered

theorem ofExcept_bind {k : γ} {r : Except ε γ} {f g : γ → Call ε β} (hr : r = .ok k)
    (h : Reports (f k) (g k) b told) : Reports (ofExcept r >>= f) (ofExcept r >>= g) b told := by
  subst hr
  exact quiet_bind (quiet_ofExcept k) h

end Reports
end Call

open Call

namespace Listing
variable {ρ ε σ π : Type} {l : Listing ρ ε σ π}

theorem inquires_pages {mute : ρ}
    (hfetch : ∀ cursor reply, Inquires (l.fetch cursor reply) (l.fetch cursor mute)) (cursor : σ)
    (replies : List ρ) : Inquires (l.pages cursor replies) (l.pages cursor [mute]) := by
  cases replies with
  | nil => exact (hfetch cursor l.spent).bind (fun page => silent_ofExcept _) _
  | cons reply later =>
    refine (hfetch cursor reply).bind (fun page => ?_) _
    cases l.next cursor page with
    | none => exact silent_ofExcept _
    | some cursor' =>
      exact (silent_pages (fun cursor reply => (hfetch cursor reply).silent) cursor' later).bind
        fun found => silent_ofExcept _

end Listing

theorem Http.inquires_fetch {α : Type} (read : Json → Option α) (request : Except Fault Request)
    (reply : Reply) : Inquires (fetch read request reply) (fetch read request .closed) where
  silent := silent_fetch read request reply
  first := by
    intro logger a ha
    cases request with
    | error fault => cases ha
    | ok request =>
      refine ⟨.lost request.url.text, .web request, ?_, ?_⟩
      · rw [run_fetch_document]
        rfl
      · rw [run_fetch_document] at ha ⊢
        cases reply with
        | unreachable => cases ha
        | closed => cases ha
        | response status body => rfl

theorem Ec2.inquires_fetch (credentials : Option Credentials) (q : Query) (token : Option String)
    (reply : Reply) :
    Inquires (fetch credentials q token reply) (fetch credentials q token .closed) where
  silent := silent_fetch credentials q token reply
  first := by
    intro logger page hpage
    cases credentials with
    | none => cases hpage
    | some credentials =>
      simp only [fetch] at hpage ⊢
      cases hsendable : credentials.isSendable with
      | false =>
        rw [hsendable] at hpage
        cases hpage
      | true =>
        rw [hsendable] at hpage
        refine ⟨.lost, .ec2 ⟨credentials, q.region, listingParameters q.tagKey q.tagValue token⟩,
          rfl, ?_⟩
        cases reply with
        | unreachable => cases hpage
        | closed => cases hpage
        | page page => rfl
        | response status body => rfl

end NodeDiscovery
