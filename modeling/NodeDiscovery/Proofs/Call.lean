import NodeDiscovery.Call

/-! Calls as seen from outside: how they end and what they do there, apart from what they log. -/
namespace NodeDiscovery.Call
variable {ε ε' α β : Type} {logger : Logger}

/-- How a call ends and what it does outside. -/
def outcome (x : Call ε α) (logger : Logger) : Except ε α × List Event :=
  ((x.run logger).result, (x.run logger).events)

theorem run_mapError_ok {x : Call ε α} {a : α} {log : List Record} {events : List Event}
    (h : x.run logger = ⟨.ok a, log, events⟩) (f : ε → ε') :
    (x.mapError f).run logger = ⟨.ok a, log, events⟩ := by
  rw [run_mapError, h]
  rfl

theorem run_bind_eq_ok {x : Call ε α} {f : α → Call ε β} {b : β}
    (h : ((x >>= f).run logger).result = .ok b) :
    ∃ a, (x.run logger).result = .ok a ∧ ((f a).run logger).result = .ok b := by
  rw [run_bind] at h
  cases hresult : (x.run logger).result with
  | error e =>
    rw [hresult] at h
    cases h
  | ok a =>
    rw [hresult] at h
    exact ⟨a, rfl, h⟩

theorem run_mapError_eq_ok {x : Call ε α} {tell : ε → ε'} {a : α}
    (h : ((x.mapError tell).run logger).result = .ok a) : (x.run logger).result = .ok a := by
  rw [run_mapError] at h
  cases hresult : (x.run logger).result with
  | error e =>
    rw [hresult] at h
    cases h
  | ok found =>
    rw [hresult] at h
    cases h
    rfl

theorem mapError_map (f : ε → ε') (g : α → β) (x : Call ε α) :
    (g <$> x).mapError f = g <$> x.mapError f := by
  apply ext
  intro logger
  rw [map_eq_pure_bind, map_eq_pure_bind, run_mapError, run_bind, run_bind, run_mapError]
  cases (x.run logger).result with
  | error e => rfl
  | ok a => rfl

theorem mapError_bind (f : ε → ε') (x : Call ε α) (g : α → Call ε β) :
    (x >>= g).mapError f = x.mapError f >>= fun a => (g a).mapError f := by
  apply ext
  intro logger
  rw [run_mapError, run_bind, run_bind, run_mapError]
  cases (x.run logger).result with
  | error e => rfl
  | ok a => rfl

theorem outcome_mapError (f : ε → ε') (x : Call ε α) (logger : Logger) :
    (x.mapError f).outcome logger =
      ((x.outcome logger).1.mapError f, (x.outcome logger).2) := rfl

theorem outcome_bind_ok {x : Call ε α} {f : α → Call ε β} {a : α} {events : List Event}
    (h : x.outcome logger = (.ok a, events)) :
    (x >>= f).outcome logger =
      (((f a).outcome logger).1, events ++ ((f a).outcome logger).2) := by
  have hresult : (x.run logger).result = .ok a := congrArg Prod.fst h
  have hevents : (x.run logger).events = events := congrArg Prod.snd h
  rw [outcome, run_bind, hresult, ← hevents]
  rfl

theorem outcome_bind_error {x : Call ε α} {f : α → Call ε β} {e : ε} {events : List Event}
    (h : x.outcome logger = (.error e, events)) :
    (x >>= f).outcome logger = (.error e, events) := by
  have hresult : (x.run logger).result = .error e := congrArg Prod.fst h
  have hevents : (x.run logger).events = events := congrArg Prod.snd h
  rw [outcome, run_bind, hresult, ← hevents]

theorem outcome_bind_congr {f g : α → Call ε β}
    (h : ∀ a, (f a).outcome logger = (g a).outcome logger) (x : Call ε α) :
    (x >>= f).outcome logger = (x >>= g).outcome logger := by
  obtain ⟨result, events, houtcome⟩ : ∃ r e, x.outcome logger = (r, e) := ⟨_, _, rfl⟩
  cases result with
  | error e => rw [outcome_bind_error houtcome, outcome_bind_error houtcome]
  | ok a => rw [outcome_bind_ok houtcome, outcome_bind_ok houtcome, h a]

/-- The call succeeds with `a`, and does nothing but write records. -/
def Quiet (x : Call ε α) (a : α) : Prop := ∀ logger, x.outcome logger = (.ok a, [])

/-- The call succeeds with `a`, and does nothing but write these records, of which a logger gets
what it takes. -/
def Writes (x : Call ε α) (a : α) (records : List Record) : Prop :=
  ∀ logger, x.run logger = ⟨.ok a, logger.taken records, []⟩

theorem writes_pure (a : α) : (pure a : Call ε α).Writes a [] := fun _ => rfl

theorem writes_log (level : Level) (target text : String) :
    (log level target text : Call ε Unit).Writes () [⟨level, target, text⟩] := fun _ => rfl

theorem Writes.bind {x : Call ε α} {f : α → Call ε β} {a : α} {b : β} {records more : List Record}
    (hx : x.Writes a records) (hf : (f a).Writes b more) :
    (x >>= f).Writes b (records ++ more) := by
  intro logger
  rw [run_bind_ok (hx logger), hf logger, Logger.taken_append]
  rfl

theorem writes_log_pure (level : Level) (target text : String) (a : α) :
    (do
      log level target text
      return a : Call ε α).Writes a [⟨level, target, text⟩] :=
  (writes_log level target text).bind (writes_pure a)

theorem Writes.run_everything {x : Call ε α} {a : α} {records : List Record}
    (h : x.Writes a records) : x.run .everything = ⟨.ok a, records, []⟩ := by
  rw [h .everything, Logger.taken_everything]

theorem Writes.quiet {x : Call ε α} {a : α} {records : List Record} (h : x.Writes a records) :
    x.Quiet a := by
  intro logger
  rw [outcome, h logger]

theorem writes_gather {f : α → Call ε (List β)} {found : α → List β} {told : α → List Record}
    (h : ∀ a, (f a).Writes (found a) (told a)) (items : List α) :
    (gather f items).Writes (items.flatMap found) (items.flatMap told) := by
  induction items with
  | nil => exact writes_pure []
  | cons a rest ih =>
    rw [gather_cons, List.flatMap_cons, List.flatMap_cons, ← List.append_nil (rest.flatMap told)]
    exact (h a).bind (ih.bind (writes_pure _))

theorem writes_gather_log (level : Level) (target : String) (text : α → String) (items : List α) :
    (gather (fun a => do
      log level target (text a)
      return [a]) items : Call ε (List α)).Writes items
        (items.map fun a => ⟨level, target, text a⟩) := by
  have hall := writes_gather (fun a => writes_log_pure (ε := ε) level target (text a) [a]) items
  rwa [List.flatMap_singleton', ← List.map_eq_flatMap] at hall

theorem quiet_pure (a : α) : (pure a : Call ε α).Quiet a := fun _ => rfl

theorem quiet_ofExcept (a : α) : (ofExcept (.ok a) : Call ε α).Quiet a := fun _ => rfl

theorem quiet_log (level : Level) (target text : String) :
    (log level target text : Call ε Unit).Quiet () := fun _ => rfl

theorem Quiet.outcome_bind {x : Call ε α} {a : α} (h : x.Quiet a) (f : α → Call ε β)
    (logger : Logger) : (x >>= f).outcome logger = (f a).outcome logger := by
  rw [outcome_bind_ok (h logger), List.nil_append]

theorem Quiet.bind {x : Call ε α} {f : α → Call ε β} {a : α} {b : β} (hx : x.Quiet a)
    (hf : (f a).Quiet b) : (x >>= f).Quiet b := by
  intro logger
  rw [hx.outcome_bind, hf logger]

/-- The call tells nothing, and no logger makes a difference to it. -/
def Silent (x : Call ε α) : Prop :=
  ∀ logger, x.run logger = ⟨(x.run .discard).result, [], (x.run .discard).events⟩

theorem silent_ofExcept (r : Except ε α) : (ofExcept r).Silent := fun _ => rfl

theorem silent_emit (event : Event) : (emit event : Call ε Unit).Silent := fun _ => rfl

theorem Silent.bind {x : Call ε α} {f : α → Call ε β} (hx : x.Silent) (hf : ∀ a, (f a).Silent) :
    (x >>= f).Silent := by
  intro logger
  rw [run_bind, run_bind, hx logger]
  cases (x.run .discard).result with
  | error e => rfl
  | ok a =>
    simp only
    rw [hf a logger]
    rfl

theorem Silent.mapError {x : Call ε α} (h : x.Silent) (f : ε → ε') : (x.mapError f).Silent := by
  intro logger
  rw [run_mapError, run_mapError, h logger]

theorem Silent.log_eq_nil {x : Call ε α} (h : x.Silent) (logger : Logger) :
    (x.run logger).log = [] := by
  rw [h logger]

theorem Silent.exists_run {x : Call ε α} {a : α} (h : x.Silent)
    (ha : (x.run logger).result = .ok a) : ∃ events, x.run logger = ⟨.ok a, [], events⟩ :=
  ⟨_, by rw [← ha, ← h.log_eq_nil logger]⟩

/-- The call fails and does nothing but write records. -/
def Refuses (x : Call ε α) : Prop := ∃ e, ∀ logger, x.outcome logger = (.error e, [])

theorem Refuses.events_eq_nil {x : Call ε α} (h : x.Refuses) (logger : Logger) :
    (x.run logger).events = [] := by
  obtain ⟨e, he⟩ := h
  exact congrArg Prod.snd (he logger)

theorem refuses_ofExcept (e : ε) : (ofExcept (.error e) : Call ε α).Refuses :=
  ⟨e, fun _ => rfl⟩

theorem Refuses.bind {x : Call ε α} (h : x.Refuses) (f : α → Call ε β) : (x >>= f).Refuses := by
  obtain ⟨e, he⟩ := h
  exact ⟨e, fun logger => outcome_bind_error (he logger)⟩

theorem Refuses.mapError {x : Call ε α} (h : x.Refuses) (f : ε → ε') : (x.mapError f).Refuses := by
  obtain ⟨e, he⟩ := h
  refine ⟨f e, fun logger => ?_⟩
  rw [outcome_mapError, he logger]
  rfl

theorem Quiet.eq {x : Call ε α} {a b : α} (h : x.Quiet a)
    (hb : (x.run logger).result = .ok b) : a = b :=
  Except.ok.inj ((congrArg Prod.fst (h logger)).symm.trans hb)

theorem Quiet.unique {x : Call ε α} {a b : α} (h : x.Quiet a) (hb : x.Quiet b) : a = b :=
  h.eq (congrArg Prod.fst (hb .discard))

/-- For any logger the call ends and acts as for the one that takes everything; of what that one
gets the logger gets what it takes. -/
def Transparent (x : Call ε α) : Prop :=
  ∀ logger, x.run logger =
    ⟨(x.run .everything).result, logger.taken (x.run .everything).log, (x.run .everything).events⟩

theorem transparent_ofExcept (r : Except ε α) : (ofExcept r).Transparent := fun _ => rfl

theorem Silent.transparent {x : Call ε α} (h : x.Silent) : x.Transparent := by
  intro logger
  rw [h logger, h .everything, Logger.taken_nil]

theorem Writes.transparent {x : Call ε α} {a : α} {records : List Record}
    (h : x.Writes a records) : x.Transparent := by
  intro logger
  rw [h logger, h.run_everything]

theorem Transparent.bind {x : Call ε α} {f : α → Call ε β} (hx : x.Transparent)
    (hf : ∀ a, (f a).Transparent) : (x >>= f).Transparent := by
  intro logger
  rw [run_bind, run_bind, hx logger]
  cases (x.run .everything).result with
  | error e => rfl
  | ok a =>
    simp only
    rw [hf a logger, Logger.taken_append]

theorem Transparent.mapError {x : Call ε α} (h : x.Transparent) (tell : ε → ε') :
    (x.mapError tell).Transparent := by
  intro logger
  rw [run_mapError, run_mapError, h logger]

/-- The call does nothing but write records. However it ends, it ends so for all loggers, and each
of them gets what it takes of the same records. -/
def Plain (x : Call ε α) : Prop :=
  ∃ result told, ∀ logger, x.run logger = ⟨result, logger.taken told, []⟩

theorem Writes.plain {x : Call ε α} {a : α} {records : List Record} (h : x.Writes a records) :
    x.Plain := ⟨_, records, h⟩

theorem plain_ofExcept (r : Except ε α) : (ofExcept r).Plain := ⟨r, [], fun _ => rfl⟩

theorem Plain.bind {x : Call ε α} {f : α → Call ε β} (hx : x.Plain) (hf : ∀ a, (f a).Plain) :
    (x >>= f).Plain := by
  obtain ⟨result, told, hx⟩ := hx
  cases result with
  | error e => exact ⟨_, told, fun logger => run_bind_error (hx logger)⟩
  | ok a =>
    obtain ⟨result, more, hf⟩ := hf a
    refine ⟨result, told ++ more, fun logger => ?_⟩
    rw [run_bind_ok (hx logger), hf logger, Logger.taken_append]
    rfl

theorem Plain.transparent {x : Call ε α} (h : x.Plain) : x.Transparent := by
  obtain ⟨result, told, h⟩ := h
  intro logger
  rw [h logger, h .everything, Logger.taken_everything]

/-- Whether such a call succeeds, and with what, is the same for all loggers. -/
theorem Plain.refuses_or_quiet {x : Call ε α} (h : x.Plain) : x.Refuses ∨ ∃ a, x.Quiet a := by
  obtain ⟨result, told, h⟩ := h
  cases result with
  | error e => exact .inl ⟨e, fun logger => by rw [outcome, h logger]⟩
  | ok a => exact .inr ⟨a, fun logger => by rw [outcome, h logger]⟩

theorem Plain.quiet_of_ok {x : Call ε α} {a : α} (h : x.Plain)
    (ha : (x.run logger).result = .ok a) : x.Quiet a := by
  obtain ⟨e, he⟩ | ⟨a', ha'⟩ := h.refuses_or_quiet
  · exact nomatch (congrArg Prod.fst (he logger)).symm.trans ha
  · exact ha'.eq ha ▸ ha'

/-- What only tells of the findings of a call changes neither its failure nor what it does. -/
theorem outcome_bind_quiet {x : Call ε α} {f : α → Call ε β} {g : α → β}
    (h : ∀ a, (f a).Quiet (g a)) (logger : Logger) :
    (x >>= f).outcome logger = ((x.outcome logger).1.map g, (x.outcome logger).2) := by
  obtain ⟨result, events, houtcome⟩ : ∃ r e, x.outcome logger = (r, e) := ⟨_, _, rfl⟩
  rw [houtcome]
  cases result with
  | error e => rw [outcome_bind_error houtcome]; rfl
  | ok a => rw [outcome_bind_ok houtcome, h a logger, List.append_nil]; rfl

end NodeDiscovery.Call
