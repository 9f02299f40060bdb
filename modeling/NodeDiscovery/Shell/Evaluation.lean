import NodeDiscovery.Shell.Simple

/-! Running commands of every kind. -/
namespace NodeDiscovery.Shell
open Machine

namespace Machine

/-- Runs one round of a loop, and says whether there may be another one. -/
def once (x : Machine Unit) : Machine Bool := do
  try
    x
    return true
  catch
    | .break n =>
      if 1 < n then throw (.break (n - 1))
      return false
    | .continue n =>
      if 1 < n then throw (.continue (n - 1))
      return true
    | stop => throw stop

/-- Runs the rounds of a loop in their own depth. -/
def inLoop (x : Machine Unit) : Machine Unit := do
  modify fun s => { s with loopDepth := s.loopDepth + 1 }
  restoring (fun s => { s with loopDepth := s.loopDepth - 1 }) x

end Machine

namespace Runner
variable (r : Runner)

/-- Starts the stages of a pipeline, each reading what the one before it writes. -/
def startStages (isTested inBackground : Bool) :
    Bool → Option Nat → List Command → Machine (List Nat)
  | _, _, [] => return []
  | isFirst, before, c :: rest => do
    let link ← if rest.isEmpty then pure none else do
      let ends ← ask .pipe
      pure (some ends)
    let process ← spawn do
      settle c
      if inBackground then detach isFirst
      if let some (input, _) := link then ask (.close input)
      if let some input := before then move input 0
      if let some (_, output) := link then move output 1
      r.toEnd (r.run { isTested, isLast := true } c)
    if let some input := before then ask (.close input)
    if let some (_, output) := link then ask (.close output)
    return process :: (← startStages isTested inBackground false (link.map Prod.fst) rest)

/-- How asking for the condition of a loop went. -/
inductive Answer
  | goOn
  | stop
  /-- The condition is to be asked again. -/
  | again
deriving DecidableEq, Repr

/-- Asks for the condition of a loop. Leaving the loop from there leaves its status as it is. -/
def askCondition (isUntil : Bool) (status : Nat) (condition : Command) : Machine Answer := do
  try
    r.run { isTested := true } condition
    return if ((← get).status = 0) != isUntil then .goOn else .stop
  catch
    | .break k =>
      setStatus status
      if 1 < k then throw (.break (k - 1))
      return .stop
    | .continue k =>
      setStatus status
      if 1 < k then throw (.continue (k - 1))
      return .again
    | stop => throw stop

/-- The rounds of a loop; the number bounds how many. The status is that of the last one. -/
def runLoop (isUntil isTested : Bool) (condition body : Command) : Nat → Nat → Machine Unit
  | 0, _ => pure ()
  | n + 1, status => do
    step
    match ← r.askCondition isUntil status condition with
    | .stop => setStatus status
    | .again => runLoop isUntil isTested condition body n status
    | .goOn =>
      if ← once (r.run { isTested } body) then
        runLoop isUntil isTested condition body n (← get).status

def runFor (name : Text) (isTested : Bool) (body : Command) : Nat → List Text → Machine Unit
  | status, [] => setStatus status
  | _, value :: rest => do
    assign name value
    if ← once (r.run { isTested } body) then
      runFor name isTested body (← get).status rest

def matchesAny (subject : Text) (patterns : List Word) : Machine Bool :=
  patterns.anyM fun w => do return (← r.expandWord .text w).pattern.matches subject

def runCase (m : Mode) (subject : Text) : List (List Word × Command) → Machine Unit
  | [] => succeed
  | (patterns, body) :: rest => do
    if ← r.matchesAny subject patterns then
      match body with
      | .nothing => succeed
      | body => r.run m body
    else runCase m subject rest

def runCommand (m : Mode) (c : Command) : Machine Unit := do
  let tested : Mode := { isTested := true }
  match c with
  | .nothing => pure ()
  | .simple line assignments words redirections =>
    r.runSimple m line assignments words redirections
    step
  | .sequence first second =>
    r.run { isTested := m.isTested } first
    r.run m second
  | .and first second =>
    r.run tested first
    if (← get).status = 0 then r.run m second
  | .or first second =>
    r.run tested first
    if (← get).status ≠ 0 then r.run m second
  | .not command =>
    r.run tested command
    setStatus (if (← get).status = 0 then 1 else 0)
  | .ifElse condition body otherwise =>
    r.run tested condition
    if (← get).status = 0 then r.run m body
    else match otherwise with
      | .nothing => succeed
      | otherwise => r.run m otherwise
  | .loop isUntil condition body =>
    inLoop (r.runLoop isUntil m.isTested condition body bound 0)
  | .for_ line name words body =>
    modify fun s => { s with line }
    let values ← r.expandAll words
    inLoop (r.runFor name m.isTested body 0 values)
  | .case_ line subject arms =>
    modify fun s => { s with line }
    r.runCase m (← r.expandText .text subject) arms
  | .function line name body =>
    modify fun s => { s with
      functions := (name, ⟨line, body⟩) :: s.functions.filter (·.1 ≠ name) }
    succeed
  | .redirected line command redirections =>
    modify fun s => { s with line }
    let aims ← r.prepare redirections
    underRedirections false (aims.map (·.descriptor)) do
      if ← redirectSafely r.documentText aims then r.run { isTested := m.isTested } command
  | .subshell line body redirections =>
    modify fun s => { s with line }
    let aims ← r.prepare redirections
    let act : Machine Unit := do
      redirectAll r.documentText aims
      r.run { isTested := m.isTested, isLast := true } body
    if m.isLast && !(← get).hasTraps then
      settle .nothing
      act
    else
      await [← spawn (do settle .nothing; r.toEnd act)]
      step
  | .background line body redirections =>
    modify fun s => { s with line }
    let aims ← r.prepare redirections
    let process ← spawn do
      settle body
      detach true
      r.toEnd do
        redirectAll r.documentText aims
        r.run { isLast := true } body
    addJob [process]
  | .pipeline stages inBackground =>
    let processes ← r.startStages m.isTested inBackground true none stages
    if inBackground then addJob processes
    else
      await processes
      step

/-- Runs a command, and before and after it the traps of signals. A failure that nobody asks for may
end the shell. -/
def runFully (m : Mode) (c : Command) : Machine Unit := do
  r.catchUp bound
  if !(← isOn 'n') then
    r.runCommand m c
    r.catchUp bound
    let canFail := match c with
      | .simple .. | .subshell .. | .background .. | .pipeline .. => true
      | _ => false
    let s ← get
    if canFail && !m.isTested && s.status ≠ 0 && s.options.contains 'e' then throw .ended
  if m.isLast then throw .ended

end Runner

/-- Runs commands in which others stand at most as deep as a number says. -/
def runner : Nat → Runner
  | 0 => ⟨fun _ _ => throw .ended, fun _ _ _ => throw .ended⟩
  | n + 1 => ⟨fun m c => (runner n).runFully m c,
      fun environment places words => (runner n).become environment places words⟩

end NodeDiscovery.Shell
