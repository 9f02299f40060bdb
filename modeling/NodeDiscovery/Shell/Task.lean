import NodeDiscovery.Shell.Files
import NodeDiscovery.Shell.Outcome

/-! Programs as trees of what they ask of the system. -/
namespace NodeDiscovery.Shell

structure Opening where
  reads : Bool
  writes : Bool
  creates : Bool
  truncates : Bool
  appends : Bool
  /-- Refuses a regular file that is there already. -/
  exclusive : Bool
deriving DecidableEq, Repr

namespace Opening

def input : Opening := ⟨true, false, false, false, false, false⟩

def output : Opening := ⟨false, true, true, true, false, false⟩

def addition : Opening := ⟨false, true, true, false, true, false⟩

def update : Opening := ⟨true, true, true, false, false, false⟩

end Opening

inductive Disposition
  | usual
  | ignored
  /-- The program is told of it. -/
  | reported
deriving DecidableEq, Repr

structure Identity where
  process : Nat
  parent : Nat
deriving DecidableEq, Repr

inductive Request
  /-- Lets time go by. -/
  | step
  | fork
  /-- Becomes another program. -/
  | become
  | identify
  | clock
  | sleep (nanoseconds : Nat)
  | wait (process : Nat) (interruptible : Bool)
  /-- Asks whether a process has ended, without waiting. -/
  | poll (process : Nat)
  | kill (process signal : Nat)
  | handle (signal : Nat) (d : Disposition)
  | disposition (signal : Nat)
  | open (descriptor : Nat) (path : Text) (how : Opening)
  | duplicate (source target : Nat)
  | close (descriptor : Nat)
  | pipe
  /-- Remembers what some descriptors lead to. -/
  | save (descriptors : List Nat)
  /-- Goes back to what was remembered last. -/
  | restore
  /-- Forgets what was remembered last. -/
  | forget
  | read (descriptor : Nat) (most : Option Nat)
  /-- Reads to the end of a line at most. -/
  | readLine (descriptor : Nat)
  | write (descriptor : Nat) (t : Text)
  /-- Writes to where the descriptor led when it was remembered last. -/
  | writeBehind (descriptor : Nat) (t : Text)
  /-- Undoes the reading of some characters, where that can be done. -/
  | unread (descriptor : Nat) (t : Text)
  | look (path : Text) (follow : Bool)
  | list (path : Text)
  | directory
  | changeDirectory (path : Text)
  | makeDirectory (path : Text)
  | makeLink (target path : Text)
  | remove (path : Text)
  | removeDirectory (path : Text)
  | rename (source target : Text)
  | setMode (path : Text) (mode : Nat)
  | touch (path : Text)
  | mask (new : Option Nat)

inductive Waited
  | ended (e : Ending)
  | noChild
  /-- A signal came that the program wants to be told of. -/
  | interrupted
deriving DecidableEq, Repr

structure Look where
  place : Path
  node : Node
deriving DecidableEq, Repr

abbrev Request.Reply : Request → Type
  | step => List Nat
  | fork | clock => Nat
  | become | sleep _ | handle _ _ | close _ | save _ | restore | forget | unread _ _ => Unit
  | identify => Identity
  | wait _ _ => Waited
  | poll _ => Option Ending
  | kill _ _ => Bool
  | disposition _ => Disposition
  | «open» _ _ _ | duplicate _ _ | changeDirectory _ | makeDirectory _ | makeLink _ _ | remove _
  | removeDirectory _ | rename _ _ | setMode _ _ | touch _ => Except Refusal Unit
  | pipe => Nat × Nat
  | read _ _ | readLine _ => Except Refusal Text
  | write _ _ | writeBehind _ _ => Except Refusal Unit
  | look _ _ => Option Look
  | list _ => Except Refusal (List Text)
  | directory => Path
  | mask _ => Nat

/-- A program: it asks, and goes on with the answer, until it ends with a status. -/
inductive Task
  | done (status : Nat)
  | call (r : Request) (k : r.Reply → Task)

end NodeDiscovery.Shell
