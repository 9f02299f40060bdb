import NodeDiscovery.Shell.Expansion

/-! Redirections: what they open, and what is said when that cannot be done. -/
namespace NodeDiscovery.Shell

structure Aim where
  kind : RedirectionKind
  descriptor : Nat
  target : Text

namespace Machine

def openFile (descriptor : Nat) (path : Text) (how : Opening) : Machine Unit := do
  match ← ask (.open descriptor path how) with
  | .ok () => pure ()
  | .error e =>
    let isMissing := e = .noEntry || e = .notDirectory
    let reason :=
      if !isMissing then e.message
      else if how.creates then "Directory nonexistent" else "No such file"
    let action := if how.creates then "create " else "open "
    fail (("cannot " ++ action).toList ++ path ++ (": " ++ reason).toList)

/-- Opens a file for output that is not to replace another one. -/
def openNew (descriptor : Nat) (path : Text) : Machine Unit := do
  match ← ask (.look path true) with
  | none => openFile descriptor path { Opening.output with exclusive := true }
  | some ⟨_, node⟩ =>
    if node.content matches .regular _ then
      fail ("cannot create ".toList ++ path ++ (": " ++ Refusal.inUse.message).toList)
    else openFile descriptor path ⟨false, true, false, false, false, false⟩

def readFile (path : Text) : Machine Text := do
  openFile 10 path .input
  let t ← readAll 10 bound
  ask (.close 10)
  return match t with
    | .ok t => t
    | .error _ => []

def openText (descriptor : Nat) (t : Text) : Machine Unit := do
  let (input, output) ← ask .pipe
  put output t
  ask (.close output)
  move input descriptor

/-- Opens what one redirection leads to. `textOf` gives the texts in the script. -/
def redirect (textOf : Nat → Machine Text) (a : Aim) : Machine Unit := do
  match a.kind with
  | .input => openFile a.descriptor a.target .input
  | .output =>
    if ← isOn 'C' then openNew a.descriptor a.target else openFile a.descriptor a.target .output
  | .overwriting => openFile a.descriptor a.target .output
  | .addition => openFile a.descriptor a.target .addition
  | .update => openFile a.descriptor a.target .update
  | .document number => openText a.descriptor (← textOf number)
  | .duplicate =>
    match natural? a.target with
    | none => ask (.close a.descriptor)
    | some source =>
      if source ≠ a.descriptor then
        match ← ask (.duplicate source a.descriptor) with
        | .ok () => pure ()
        | .error e => fail (textOfNat source ++ (": " ++ e.message).toList)

def redirectAll (textOf : Nat → Machine Text) : List Aim → Machine Unit
  | [] => pure ()
  | a :: rest => do
    redirect textOf a
    redirectAll textOf rest

/-- Whether all redirections could be opened; the status tells as well. -/
def redirectSafely (textOf : Nat → Machine Text) (aims : List Aim) : Machine Bool := do
  try
    redirectAll textOf aims
    return true
  catch
    | .failure => return false
    | stop => throw stop

/-- Descriptors can be copied only from a digit, and a dash closes them. -/
def checkAim (a : Aim) : Machine Unit := do
  let isDigit := a.target.length = 1 && a.target.all Char.isDigit
  if a.kind = .duplicate && !isDigit && a.target ≠ ['-'] then
    failWith "Syntax error: Bad fd number"

end Machine
end NodeDiscovery.Shell
