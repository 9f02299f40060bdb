import NodeDiscovery.Shell.Number
import NodeDiscovery.Shell.Syntax
import NodeDiscovery.Shell.Task

/-! The state of a running shell, and what changes it. -/
namespace NodeDiscovery.Shell

structure Variable where
  /-- Nothing if it is unset. -/
  value : Option Text
  isExported : Bool
  isReadOnly : Bool
deriving DecidableEq, Repr

structure Function where
  line : Nat
  body : Command

structure Job where
  /-- Those not waited for yet. -/
  processes : List Nat
  /-- The last of them stands for all. -/
  last : Nat
  /-- Its status, once that is known. -/
  status : Option Nat
  /-- Whether anybody has asked for the status. -/
  isAsked : Bool
deriving DecidableEq, Repr

structure Scope where
  bindings : List (Text × Option Variable)
  options : Option (List Char)

structure Session where
  name : Text
  /-- Variables in the order in which they came up. -/
  bindings : List (Text × Variable)
  /-- Of the functions under way, the latest first. -/
  scopes : List Scope
  functions : List (Text × Function)
  aliases : List (Text × Text)
  positional : List Text
  /-- Texts in the script, with their numbers. -/
  documents : List (Nat × Word)
  fresh : Nat
  status : Nat
  /-- The status of the latest substitution in the current command. -/
  substituted : Nat
  /-- The options that are on, by their letters. -/
  options : List Char
  loopDepth : Nat
  /-- How many functions are under way. -/
  depth : Nat
  /-- What is to be done about signals, and at the end. -/
  traps : List (Nat × Text)
  /-- Signals that came and wait for their traps. -/
  caught : List Nat
  /-- The status to end with, while a trap is under way. -/
  statusBefore : Option Nat
  line : Nat
  /-- The line where the function under way begins. -/
  functionLine : Nat
  /-- The command that errors are laid on. -/
  running : Option Text
  /-- The number of the first process of this shell. -/
  root : Nat
  latestJob : Option Nat
  jobs : List Job
  /-- The argument in which the next option is looked for, and how far it stands in the one
  before. -/
  optionIndex : Nat
  optionOffset : Nat
  /-- Programs whose places are known. -/
  known : List Text
  /-- The current directory, by the names that led to it. -/
  here : Text
  /-- What the command under way is about to write, the latest first. -/
  buffer : List Text
  /-- Whether writing failed in the command under way. -/
  hasFailed : Bool

inductive Stop
  | exit
  /-- Nothing comes after the last command, or a failure ended the shell. -/
  | ended
  /-- An error was told of. -/
  | failure
  /-- A function ends; the flag says whether it was told its status. -/
  | return (hasStatus : Bool)
  | break (loops : Nat)
  | continue (loops : Nat)
deriving DecidableEq, Repr

/-- What a shell does: given its state, what comes after, and what comes after a stop, it is a
task. -/
def Machine (α : Type) : Type :=
  Session → (α → Session → Task) → (Stop → Session → Task) → Task

namespace Machine

instance : Monad Machine where
  pure a := fun s next _ => next a s
  bind x f := fun s next stop => x s (fun a s => f a s next stop) stop

instance : MonadStateOf Session Machine where
  get := fun s next _ => next s s
  set s := fun _ next _ => next () s
  modifyGet f := fun s next _ => next (f s).1 (f s).2

instance : MonadExceptOf Stop Machine where
  throw e := fun s _ stop => stop e s
  tryCatch x handle := fun s next stop => x s next fun e s => handle e s next stop

instance {α : Type} : Inhabited (Machine α) := ⟨fun s _ _ => .done s.status⟩

def ask (r : Request) : Machine r.Reply := fun s next _ => .call r fun a => next a s

/-- More than any shell does. As a bound it makes a loop end. -/
def bound : Nat := 1000000000000

def setStatus (status : Nat) : Machine Unit := modify fun s => { s with status }

def succeed : Machine Unit := setStatus 0

/-- Writes to a descriptor, and says whether that could be done. -/
def write (descriptor : Nat) (t : Text) : Machine Bool := do
  if t.isEmpty then return true
  match ← ask (.write descriptor t) with
  | .ok () => return true
  | .error _ => return false

def put (descriptor : Nat) (t : Text) : Machine Unit := do
  let _ ← write descriptor t

def warn (message : Text) : Machine Unit := do
  let s ← get
  let place := s.name ++ ": ".toList ++ (toString s.line).toList ++ ": ".toList
  let command := match s.running with
    | some name => name ++ ": ".toList
    | none => []
  put 2 (place ++ command ++ message ++ ['\n'])

/-- Adds to what the command under way is about to write. -/
def emit (t : Text) : Machine Unit := modify fun s => { s with buffer := t :: s.buffer }

def flush : Machine Unit := do
  let t := (← get).buffer.reverse.flatten
  modify fun s => { s with buffer := [] }
  if !(← write 1 t) then modify fun s => { s with hasFailed := true }

/-- Tells of an error and stops. What is about to be written comes after it. -/
def fail {α : Type} (message : Text) : Machine α := do
  warn message
  flush
  setStatus 2
  throw .failure

def failWith {α : Type} (message : String) : Machine α := fail message.toList

/-- Runs something and undoes a change of the state, also if it stops. -/
def restoring {α : Type} (restore : Session → Session) (x : Machine α) : Machine α := do
  let a ← try x catch stop =>
    modify restore
    throw stop
  modify restore
  return a

/-- Runs something and something else after it, also if it stops. -/
def finally_ {α : Type} (last : Machine Unit) (x : Machine α) : Machine α := do
  let a ← try x catch stop =>
    last
    throw stop
  last
  return a

def isOn (option : Char) : Machine Bool := return (← get).options.contains option

end Machine

namespace Session

def binding? (s : Session) (name : Text) : Option Variable := s.bindings.lookup name

def value? (s : Session) (name : Text) : Option Text :=
  if name = "LINENO".toList && (s.binding? name).isNone then
    some (toString (if s.functionLine = 0 then s.line else s.line + 1 - s.functionLine)).toList
  else (s.binding? name).bind (·.value)

/-- Puts a variable in the place of one of that name, or at the end. -/
def putVariable (s : Session) (name : Text) (v : Variable) : Session :=
  { s with bindings := go s.bindings }
where
  go : List (Text × Variable) → List (Text × Variable)
    | [] => [(name, v)]
    | w :: rest => if w.1 = name then (name, v) :: rest else w :: go rest

def eraseVariable (s : Session) (name : Text) : Session :=
  { s with bindings := s.bindings.filter (·.1 ≠ name) }

def separators (s : Session) : Text := (s.value? "IFS".toList).getD [' ', '\t', '\n']

end Session

namespace Machine

def valueOf (name : Text) : Machine (Option Text) := return (← get).value? name

def isReadOnly (name : Text) : Machine Bool :=
  return ((← get).binding? name).any (·.isReadOnly)

def checkName (name : Text) : Machine Unit := do
  if !isName name then fail (name ++ ": bad variable name".toList)

def resetOptions (value : Option Text) : Machine Unit := do
  let index ← match value with
    | none => pure 1
    | some t => match count? t with
      | some n => pure (max 1 n)
      | none => fail ("Illegal number: ".toList ++ t)
  modify fun s => { s with optionIndex := index, optionOffset := 0 }

/-- Changes a variable of any name, unless it is read only. -/
def assignAny (name : Text) (value : Option Text) (export_ : Bool) : Machine Unit := do
  let old := ((← get).binding? name).getD ⟨none, false, false⟩
  if old.isReadOnly then fail (name ++ ": is read only".toList)
  if name = "OPTIND".toList then resetOptions value
  if name = "PATH".toList then modify fun s => { s with known := [] }
  modify fun s =>
    let isExported := old.isExported || export_ || s.options.contains 'a'
    s.putVariable name { old with value, isExported }

def assignWith (name : Text) (value : Option Text) (export_ : Bool) : Machine Unit := do
  checkName name
  assignAny name value export_

def assign (name value : Text) : Machine Unit := assignWith name (some value) false

def unset (name : Text) : Machine Unit := do
  if ← isReadOnly name then fail (name ++ ": is read only".toList)
  modify (·.eraseVariable name)

/-- Keeps what a variable is, for the end of the function under way. -/
def keep (name : Text) : Machine Unit := modify fun s =>
  match s.scopes with
  | [] => s
  | scope :: scopes =>
    if scope.bindings.any (·.1 = name) then s
    else { s with scopes :=
      { scope with bindings := (name, s.binding? name) :: scope.bindings } :: scopes }

/-- Keeps which options are on, for the end of the function under way. -/
def keepOptions : Machine Unit := modify fun s =>
  match s.scopes with
  | [] => s
  | scope :: scopes =>
    { s with scopes := { scope with options := scope.options.or (some s.options) } :: scopes }

def inScope {α : Type} (x : Machine α) : Machine α := do
  modify fun s => { s with scopes := ⟨[], none⟩ :: s.scopes }
  restoring (fun s =>
    match s.scopes with
    | [] => s
    | scope :: scopes =>
      let s := scope.bindings.foldl (fun s (name, old) => match old with
        | some v => s.putVariable name v
        | none => s.eraseVariable name) s
      { s with scopes, options := scope.options.getD s.options }) x

/-- Lets time go by, and takes up the signals that came. -/
def step : Machine Unit := do
  let signals ← ask .step
  if !signals.isEmpty then modify fun s => { s with caught := s.caught ++ signals }

def spawn (x : Machine Unit) : Machine Nat := fun s next _ =>
  .call .fork fun process =>
    if process = 0 then x s (fun _ s => .done s.status) (fun _ s => .done s.status)
    else next process s

/-- Lets a descriptor lead to where another one does, and closes that one. -/
def move (source target : Nat) : Machine Unit := do
  let _ ← ask (.duplicate source target)
  ask (.close source)

def conclude {α : Type} (x : Machine Unit) : Machine α := fun s _ _ =>
  x s (fun _ s => .done s.status) fun _ s => .done s.status

/-- Reads all that a descriptor gives; the number bounds the parts. -/
def readAll (descriptor : Nat) : Nat → Machine (Except Refusal Text)
  | 0 => return .ok []
  | n + 1 => do
    match ← ask (.read descriptor none) with
    | .error e => return .error e
    | .ok [] => return .ok []
    | .ok t =>
      match ← readAll descriptor n with
      | .ok rest => return .ok (t ++ rest)
      | .error e => return .error e

end Machine
end NodeDiscovery.Shell
