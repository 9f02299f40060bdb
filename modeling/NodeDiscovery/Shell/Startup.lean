import NodeDiscovery.Shell.Builtin.Places

/-! Shells when they start, and what they hand on to other programs. -/
namespace NodeDiscovery.Shell

namespace Session

/-- A shell that has just been started as some process, with the variables it was handed. -/
def start (name : Text) (environment : List (Text × Text)) (me : Identity) (here : Text) :
    Session :=
  let own : List (Text × Variable) :=
    [("IFS", " \t\n"), ("PATH", Builtin.usualPath), ("PS1", "# "), ("PS2", "> "), ("PS4", "+ "),
      ("OPTIND", "1"), ("PPID", toString me.parent)].map fun v =>
        (v.1.toList, ⟨some v.2.toList, false, false⟩)
  let s : Session := {
    name
    bindings := own
    scopes := []
    functions := []
    aliases := []
    positional := []
    documents := []
    fresh := 0
    status := 0
    substituted := 0
    options := []
    loopDepth := 0
    depth := 0
    traps := []
    caught := []
    statusBefore := none
    line := 0
    functionLine := 0
    running := none
    root := me.process
    latestJob := none
    jobs := []
    optionIndex := 1
    optionOffset := 0
    known := []
    here
    buffer := []
    hasFailed := false }
  let given := environment.filter fun v =>
    isName v.1 && String.ofList v.1 ∉ ["IFS", "OPTIND", "PPID"]
  let s := given.foldl (fun s v => s.putVariable v.1 ⟨some v.2, true, false⟩) s
  s.putVariable "PWD".toList ⟨some here, true, false⟩

/-- The variables that a program is handed, in the order of a table. -/
def exported (s : Session) : List (Text × Text) :=
  inRows 39 Prod.fst (s.bindings.filterMap fun v =>
    if v.2.isExported then v.2.value.map (v.1, ·) else none)

/-- Whether something is to be done about a signal or at the end. -/
def hasTraps (s : Session) : Bool := s.traps.any fun t => !t.2.isEmpty

def places (s : Session) : Text := (s.value? "PATH".toList).getD []

end Session

namespace Machine

/-- Forgets in a new process what belongs to the one that it comes from. Only the command that shows
traps still sees them. -/
def settle (c : Command) : Machine Unit := do
  let isTrap : Bool := match c with
    | .simple _ _ (w :: _) _ => Word.plain? w = some "trap".toList
    | _ => false
  let s ← get
  for (signal, action) in s.traps do
    if signal ≠ 0 && !action.isEmpty then ask (.handle signal .usual)
  set { s with
    traps := if isTrap then s.traps else s.traps.filter (·.2.isEmpty)
    caught := []
    jobs := [] }

/-- What a process does first that nobody waits for. -/
def detach (readsNothing : Bool) : Machine Unit := do
  ask (.handle 2 .ignored)
  ask (.handle 3 .ignored)
  if readsNothing then
    let _ ← ask (.open 0 "/dev/null".toList .input)

/-- Where a program is, or why it cannot be started. Without a slash in its name it is looked for in
some places. -/
def locate (places name : Text) : Machine (Except Refusal (Text × Node)) := do
  let check (path : Text) : Machine (Except Refusal (Text × Node)) := do
    match ← ask (.look path true) with
    | none => return .error .noEntry
    | some ⟨_, node⟩ =>
      match node.content with
      | .program => return .ok (path, node)
      | .regular _ => return if node.mode &&& 0o111 = 0 then .error .denied else .ok (path, node)
      | _ => return .error .denied
  let rec search (refusal : Refusal) : List Text → Machine (Except Refusal (Text × Node))
    | [] => return .error refusal
    | start :: rest => do
      match ← check (if start.isEmpty then name else start ++ '/' :: name) with
      | .ok found => return .ok found
      | .error .noEntry => search refusal rest
      | .error e => search e rest
  if name.contains '/' then check name
  else search .noEntry (Builtin.splitColons places)

end Machine
end NodeDiscovery.Shell
