import NodeDiscovery.Shell.Signal

/-! How command lines end. -/
namespace NodeDiscovery.Shell

inductive Ending
  | exited (status : Nat)
  /-- A signal ended the shell. -/
  | killed (signal : Nat)
deriving DecidableEq, Repr

/-- A command line that came to an end: the bytes it wrote, and the nanoseconds it took. -/
structure Outcome where
  ending : Ending
  output : List UInt8
  elapsed : Nat
deriving DecidableEq, Repr

namespace Ending

def isSuccess (e : Ending) : Bool := e = exited 0

def text : Ending → String
  | exited status => "exit status: " ++ toString status
  | killed signal =>
    "signal: " ++ toString signal ++ match signals.lookup signal with
      | some (name, _) => " (SIG" ++ name ++ ")"
      | none => ""

/-- The number by which a shell tells of an ending. -/
def status : Ending → Nat
  | exited status => status
  | killed signal => 128 + signal

end Ending
end NodeDiscovery.Shell
