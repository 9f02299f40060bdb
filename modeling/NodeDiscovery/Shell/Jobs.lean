import NodeDiscovery.Shell.Machine

/-! Waiting for processes that the shell has started. -/
namespace NodeDiscovery.Shell.Machine

/-- Tells how a process was killed, unless its signal is an everyday one. -/
def tellKilled (e : Ending) : Machine Unit :=
  match e with
  | .killed signal =>
    if signal = 2 || signal = 13 then pure ()
    else put 2 ((Signal.description signal).toList ++ ['\n'])
  | .exited _ => pure ()

/-- Waits for processes in turn. The status is that of the last one. -/
def await : List Nat → Machine Unit
  | [] => pure ()
  | process :: rest => do
    match ← ask (.wait process false) with
    | .ended e =>
      tellKilled e
      setStatus e.status
    | _ => setStatus 127
    await rest

/-- Keeps processes that are not waited for now. Jobs somebody has asked for are forgotten. -/
def addJob (processes : List Nat) : Machine Unit := do
  let last := processes.getLast?.getD 0
  modify fun s => { s with
    jobs := s.jobs.filter (fun job => !(job.isAsked && job.status.isSome)) ++
      [⟨processes, last, none, false⟩]
    latestJob := some last
    status := 0 }

def putJob (job : Job) : Machine Unit := modify fun s =>
  { s with jobs := s.jobs.map fun other => if other.last = job.last then job else other }

/-- Waits for a job, and says whether no signal came in between. -/
def awaitJob (tells : Bool) (job : Job) : List Nat → Machine Bool
  | [] => do
    putJob { job with processes := [], isAsked := true }
    return true
  | process :: rest => do
    match ← ask (.wait process true) with
    | .interrupted =>
      putJob { job with processes := process :: rest }
      return false
    | .ended e =>
      if tells then tellKilled e
      let job := if process = job.last then { job with status := some e.status } else job
      putJob job
      awaitJob tells job rest
    | .noChild => awaitJob tells { job with status := job.status.or (some 127) } rest

/-- Takes up the processes of a job that have ended. -/
def takeUp (job : Job) : List Nat → Machine Job
  | [] => return job
  | process :: rest => do
    match ← ask (.poll process) with
    | none => takeUp job rest
    | some e =>
      let status := if process = job.last then some e.status else job.status
      takeUp { job with processes := job.processes.filter (· ≠ process), status } rest

def Job.text (job : Job) : String :=
  match job.processes, job.status with
  | _ :: _, _ | [], none => "Running"
  | [], some 0 => "Done"
  | [], some n =>
    if 128 < n && (signals.lookup (n - 128)).isSome then Signal.description (n - 128)
    else "Done(" ++ toString n ++ ")"

/-- Shows a job with its place and a mark for one of the last two. With `ofIds` only its process is
shown. -/
def showJob (ofIds withIds : Bool) (count : Nat) (job : Job) (place : Nat) : Machine Unit := do
  let id := textOfNat job.last
  if ofIds then emit (id ++ ['\n'])
  else
    let mark : Char := if place = count then '+' else if place + 1 = count then '-' else ' '
    let lead := '[' :: textOfNat place ++ ([']', ' ', mark, ' '] : Text) ++
      (if withIds then id ++ [' '] else []) ++ (Job.text job).toList
    emit (lead ++ List.replicate (33 - lead.length) ' ' ++ ['\n'])

/-- Shows all jobs from the last to the first, and forgets those that are over. -/
def showJobs (ofIds withIds : Bool) : Machine Unit := do
  let jobs ← (← get).jobs.mapM fun job => takeUp job job.processes
  for (job, index) in jobs.zipIdx.reverse do
    showJob ofIds withIds jobs.length job (index + 1)
  modify fun s => { s with jobs := jobs.filter (!·.processes.isEmpty) }

def interruptedStatus : Machine Nat := do
  step
  return 128 + ((← get).caught.head?.getD 0)

def awaitJobs : List Job → Machine Unit
  | [] => succeed
  | job :: rest => do
    if ← awaitJob false job job.processes then awaitJobs rest
    else setStatus (← interruptedStatus)

/-- The job that a text names: by a process, or by its place after a percent sign. -/
def job? (t : Text) : Machine (Option Job) := do
  let jobs := (← get).jobs
  match t with
  | '%' :: rest =>
    match natural? rest with
    | some n => return if n = 0 then none else jobs[n - 1]?
    | none => return if rest ∈ [[], ['%'], ['+']] then jobs.getLast? else none
  | _ =>
    match count? t with
    | some n => return jobs.find? (·.last = n)
    | none => fail ("Illegal number: ".toList ++ t)

/-- Waits for some jobs in turn. Those that are not known leave the status as it is. -/
def awaitNamed : List Text → Machine Unit
  | [] => pure ()
  | t :: rest => do
    match ← job? t with
    | none =>
      if t.head? = some '%' then fail ("No such job: ".toList ++ t)
      awaitNamed rest
    | some job =>
      if ← awaitJob true job job.processes then
        let job ← job? t
        setStatus ((job.bind (·.status)).getD 127)
        awaitNamed rest
      else setStatus (← interruptedStatus)

end NodeDiscovery.Shell.Machine
