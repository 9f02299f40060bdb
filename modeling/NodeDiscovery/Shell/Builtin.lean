import NodeDiscovery.Shell.Builtin.Places
import NodeDiscovery.Shell.Builtin.Processes
import NodeDiscovery.Shell.Builtin.Variables
import NodeDiscovery.Shell.Condition
import NodeDiscovery.Shell.Format

/-! The commands of a shell that run no other commands. -/
namespace NodeDiscovery.Shell.Builtin

def exit (arguments : List Text) : Machine Unit := do
  match arguments with
  | [] => throw .exit
  | t :: _ =>
    let n ← count t
    modify fun s => { s with statusBefore := some n }
    throw .exit

def return_ (arguments : List Text) : Machine Unit := do
  match arguments with
  | [] => throw (.return false)
  | t :: _ =>
    Machine.setStatus (← count t)
    throw (.return true)

/-- Leaves loops, or begins their next round. Outside of loops this does nothing. -/
def leaveLoop (stop : Nat → Stop) (arguments : List Text) : Machine Unit := do
  let n ← match arguments with
    | [] => pure 1
    | t :: _ =>
      let n ← count t
      if n = 0 then Machine.fail ("Illegal number: ".toList ++ t)
      pure n
  Machine.succeed
  let depth := (← get).loopDepth
  if 0 < depth then throw (stop (min n depth))

def print (arguments : List Text) : Machine Unit := do
  match ← operands arguments with
  | format :: arguments => printf format arguments
  | [] => Machine.failWith "usage: printf format [arg ...]"

def find? (name : Text) : Option (List Text → Machine Unit) :=
  match String.ofList name with
  | ":" | "true" => some fun _ => Machine.succeed
  | "false" => some fun _ => Machine.setStatus 1
  | "echo" => some fun arguments => do
    Machine.emit (echo arguments)
    Machine.succeed
  | "printf" => some print
  | "test" | "[" => some (Condition.test name)
  | "exit" => some exit
  | "return" => some return_
  | "break" => some (leaveLoop .break)
  | "continue" => some (leaveLoop .continue)
  | "shift" => some shift
  | "set" => some set_
  | "export" => some export_
  | "readonly" => some readOnly
  | "local" => some local_
  | "unset" => some unset
  | "read" => some read
  | "getopts" => some getOption
  | "alias" => some alias_
  | "unalias" => some unalias
  | "kill" => some kill
  | "wait" => some wait
  | "trap" => some trap
  | "times" => some fun _ => times
  | "umask" => some umask
  | "ulimit" => some ulimit
  | "cd" | "chdir" => some changeDirectory
  | "pwd" => some printDirectory
  | "type" => some type
  | "hash" => some hash
  | "jobs" => some jobs
  | "bg" | "fg" => some fun _ => Machine.failWith "No current job"
  | _ => none

end NodeDiscovery.Shell.Builtin
