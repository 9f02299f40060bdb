import NodeDiscovery.Log
import NodeDiscovery.World

/-! Calls: computations that may fail, write log records and act on the outside world. A call says
what it did up to the point where it ended, in success or failure. -/
namespace NodeDiscovery

/-- What a call did and how it ended. -/
structure Trace (ε α : Type) where
  result : Except ε α
  log : List Record
  events : List Event

/-- A call, for the logger that it writes to. -/
def Call (ε α : Type) : Type := Logger → Trace ε α

namespace Call
variable {ε ε' α β γ : Type}

def run (x : Call ε α) (logger : Logger) : Trace ε α := x logger

theorem ext {x y : Call ε α} (h : ∀ logger, x.run logger = y.run logger) : x = y := funext h

/-- A call that does nothing. -/
def ofExcept (result : Except ε α) : Call ε α := fun _ => ⟨result, [], []⟩

protected def pure (a : α) : Call ε α := ofExcept (.ok a)

/-- What the second part does comes after what the first one does; if that fails there is no second
part. -/
protected def bind (x : Call ε α) (f : α → Call ε β) : Call ε β := fun logger =>
  let t := x logger
  match t.result with
  | .error e => ⟨.error e, t.log, t.events⟩
  | .ok a =>
    let u := f a logger
    ⟨u.result, t.log ++ u.log, t.events ++ u.events⟩

instance : Monad (Call ε) where
  pure := Call.pure
  bind := Call.bind

/-- Ends the call in failure. -/
def fail (e : ε) : Call ε α := ofExcept (.error e)

def mapError (f : ε → ε') (x : Call ε α) : Call ε' α := fun logger =>
  let t := x logger
  ⟨t.result.mapError f, t.log, t.events⟩

/-- Writes a record if the logger takes it. -/
def log (level : Level) (target text : String) : Call ε Unit := fun logger =>
  ⟨.ok (), logger.taken [⟨level, target, text⟩], []⟩

def emit (event : Event) : Call ε Unit := fun _ => ⟨.ok (), [], [event]⟩

/-- Runs a call on each item and joins what they find. -/
def gather (f : α → Call ε (List β)) : List α → Call ε (List β)
  | [] => pure []
  | a :: rest => do
    let found ← f a
    let more ← gather f rest
    return found ++ more

@[simp] theorem run_pure (a : α) (logger : Logger) :
    (pure a : Call ε α).run logger = ⟨.ok a, [], []⟩ := rfl

@[simp] theorem run_ofExcept (r : Except ε α) (logger : Logger) :
    (ofExcept r).run logger = ⟨r, [], []⟩ := rfl

@[simp] theorem run_fail (e : ε) (logger : Logger) :
    (fail e : Call ε α).run logger = ⟨.error e, [], []⟩ := rfl

@[simp] theorem run_log (level : Level) (target text : String) (logger : Logger) :
    (log level target text : Call ε Unit).run logger =
      ⟨.ok (), logger.taken [⟨level, target, text⟩], []⟩ := rfl

@[simp] theorem run_mapError (f : ε → ε') (x : Call ε α) (logger : Logger) :
    (x.mapError f).run logger =
      ⟨(x.run logger).result.mapError f, (x.run logger).log, (x.run logger).events⟩ := rfl

@[simp] theorem run_emit (event : Event) (logger : Logger) :
    (emit event : Call ε Unit).run logger = ⟨.ok (), [], [event]⟩ := rfl

theorem run_bind (x : Call ε α) (f : α → Call ε β) (logger : Logger) :
    (x >>= f).run logger =
      match (x.run logger).result with
      | .error e => ⟨.error e, (x.run logger).log, (x.run logger).events⟩
      | .ok a =>
        ⟨((f a).run logger).result, (x.run logger).log ++ ((f a).run logger).log,
          (x.run logger).events ++ ((f a).run logger).events⟩ := rfl

/-- A first part that succeeds hands over to the second. -/
theorem run_bind_ok {x : Call ε α} {f : α → Call ε β} {logger : Logger} {a : α}
    {log : List Record} {events : List Event} (h : x.run logger = ⟨.ok a, log, events⟩) :
    (x >>= f).run logger =
      ⟨((f a).run logger).result, log ++ ((f a).run logger).log,
        events ++ ((f a).run logger).events⟩ := by
  rw [run_bind, h]

/-- A first part that fails is all there is. -/
theorem run_bind_error {x : Call ε α} {f : α → Call ε β} {logger : Logger} {e : ε}
    {log : List Record} {events : List Event} (h : x.run logger = ⟨.error e, log, events⟩) :
    (x >>= f).run logger = ⟨.error e, log, events⟩ := by
  rw [run_bind, h]

instance : LawfulMonad (Call ε) := LawfulMonad.mk' _
  (fun x => ext fun logger => by
    show (x >>= fun a => pure a).run logger = x.run logger
    rw [run_bind]
    generalize x.run logger = t
    obtain ⟨result, log, events⟩ := t
    cases result <;> simp)
  (fun a f => ext fun logger => by
    rw [run_bind_ok (run_pure a logger)]
    generalize (f a).run logger = t
    simp)
  (fun x f g => ext fun logger => by
    simp only [run_bind]
    generalize x.run logger = t
    obtain ⟨result, log, events⟩ := t
    cases result with
    | error e => rfl
    | ok a =>
      simp only
      generalize (f a).run logger = u
      obtain ⟨result, log, events⟩ := u
      cases result with
      | error e => rfl
      | ok b => simp [List.append_assoc])

@[simp] theorem gather_nil (f : α → Call ε (List β)) : gather f [] = pure [] := rfl

theorem gather_cons (f : α → Call ε (List β)) (a : α) (rest : List α) :
    gather f (a :: rest) = do
      let found ← f a
      let more ← gather f rest
      return found ++ more := rfl

end Call
end NodeDiscovery
