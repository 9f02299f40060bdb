import NodeDiscovery.Shell.Jobs
import NodeDiscovery.Shell.Reader.Script
import NodeDiscovery.Shell.Redirection
import NodeDiscovery.Shell.Startup

/-! What all running of commands rests on: texts as scripts, traps, the ends of processes, and
expanding words in which commands stand. -/
namespace NodeDiscovery.Shell
open Machine

structure Mode where
  /-- Somebody asks for its status, so failing does not end the shell. -/
  isTested : Bool := false
  /-- Nothing comes after it in its process. -/
  isLast : Bool := false

structure Runner where
  run : Mode → Command → Machine Unit
  /-- Becomes a program, given its variables, the places where it is looked for, and its words. -/
  execute : List (Text × Text) → Text → List Text → Machine Unit

namespace Machine

/-- Undoes redirections after something, or forgets how. -/
def underRedirections (isKept : Bool) (descriptors : List Nat) (x : Machine Unit) : Machine Unit :=
  if descriptors.isEmpty then x
  else do
    ask (.save descriptors)
    finally_ (if isKept then ask .forget else ask .restore) x

/-- Settles the status when a process comes to its end. A trap does not change it unless it says
so. -/
def settleStatus (stop : Stop) : Machine Unit := modify fun s => { s with
  status := if stop = .exit then s.statusBefore.getD s.status else s.status
  statusBefore := none }

end Machine

namespace Runner
variable (r : Runner)

/-- Runs the lines that are left; the number bounds how many. Without any command the status is that
of success. -/
def runLines (m : Mode) : Nat → Reading → Bool → Machine Unit
  | 0, _, _ => pure ()
  | n + 1, reading, hasRun => do
    let s ← get
    match readLine.run { reading with aliases := s.aliases, fresh := s.fresh } with
    | .error fault =>
      modify fun s => { s with line := fault.line }
      fail fault.message.toList
    | .ok (none, _) => if !hasRun then succeed
    | .ok (some (c, isLast), reading) =>
      set { s with fresh := reading.fresh, documents := reading.documents ++ s.documents }
      r.run { m with isLast := m.isLast && isLast } c
      runLines m n { reading with documents := [] } (hasRun || !(c matches .nothing))

def runText (m : Mode) (t : Text) : Machine Unit := do
  let s ← get
  r.runLines m bound (.start t s.aliases s.fresh) false

/-- Runs a trap. The status is as before after it, unless it tells a function to return with another
one. -/
def runTrap (action : Text) : Machine Unit := do
  let s ← get
  let status := s.statusBefore.getD s.status
  let leave : Machine Unit := modify fun t => { t with statusBefore := s.statusBefore }
  set { s with statusBefore := some status }
  try
    r.runText {} action
    setStatus status
  catch
    | .return hasStatus =>
      if !hasStatus then setStatus status
      leave
      throw (.return hasStatus)
    | .break k =>
      setStatus status
      leave
      throw (.break k)
    | .continue k =>
      setStatus status
      leave
      throw (.continue k)
    | stop => throw stop
  leave

/-- Runs the traps of signals that came; the number bounds how many. -/
def catchUp : Nat → Machine Unit
  | 0 => pure ()
  | n + 1 => do
    let s ← get
    match s.caught.min? with
    | none => pure ()
    | some signal =>
      set { s with caught := s.caught.filter (· ≠ signal) }
      match s.traps.lookup signal with
      | none | some [] => pure ()
      | some action => r.runTrap action
      catchUp n

/-- Does what a process is for, and after it what is to be done at the end. -/
def toEnd (x : Machine Unit) : Machine Unit := do
  let stop ← try
      x
      pure Stop.ended
    catch stop => pure stop
  settleStatus stop
  let s ← get
  match s.traps.lookup 0 with
  | none | some [] => pure ()
  | some action =>
    set { s with
      traps := s.traps.filter (·.1 ≠ 0), statusBefore := some s.status, loopDepth := 0 }
    try
      r.runText {} action
      setStatus s.status
    catch
      | .return _ | .break _ | .continue _ => setStatus s.status
      | stop => settleStatus stop

/-- What a command writes, run in a process of its own. -/
def capture (c : Command) : Machine Text := do
  let (input, output) ← ask .pipe
  let process ← spawn do
    settle c
    ask (.close input)
    move output 1
    r.toEnd (r.run { isLast := true } c)
  ask (.close output)
  let t ← readAll input bound
  ask (.close input)
  await [process]
  return match t with
    | .ok t => t
    | .error _ => []

def expandWord (role : Role) (w : Word) : Machine Expanded := do
  let home := (← get).value? "HOME".toList
  expand r.capture bound role false (withHome home role w)

def expandText (role : Role) (w : Word) : Machine Text := do
  return (← r.expandWord role w).text

def expandFields (w : Word) : Machine (List Text) := do
  let e ← r.expandWord .fields w
  (e.split (← get).separators none).flatMapM filesOf

def expandAll (words : List Word) : Machine (List Text) := words.flatMapM r.expandFields

/-- The arguments of a command that assigns. Those that are assignments are not split. -/
def expandAssigning (words : List Word) : Machine (List Text) := words.flatMapM fun w =>
  match Word.assignment? w with
  | some (name, value) => do return [name ++ '=' :: (← r.expandText .value value)]
  | none => r.expandFields w

def prepare (redirections : List Redirection) : Machine (List Aim) :=
  redirections.mapM fun
    | .mk kind descriptor target => do
      let aim : Aim := ⟨kind, descriptor, ← r.expandText .text target⟩
      checkAim aim
      return aim

def documentText (number : Nat) : Machine Text := do
  r.expandText .quoted (((← get).documents.lookup number).getD [])

end Runner
end NodeDiscovery.Shell
