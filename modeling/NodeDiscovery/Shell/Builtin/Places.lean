import NodeDiscovery.Shell.Builtin.Options
import NodeDiscovery.Shell.Reader.Basic

/-! Commands about directories, and about where commands are found. -/
namespace NodeDiscovery.Shell.Builtin

/-- A path by names alone, seen from a directory. -/
def logicalPath (here dest : Text) : Text :=
  let start := if dest.head? = some '/' then [] else (namesOf here).filter (· ≠ [])
  let names := (namesOf dest).foldl (fun (names : List Text) name =>
    if name.isEmpty || name = ['.'] then names
    else if name = ['.', '.'] then names.dropLast
    else names ++ [name]) start
  Path.text names

/-- Changes the directory, and says whether that could be done. -/
def enter (dest : Text) (isPhysical : Bool) : Machine Bool := do
  let here := (← get).here
  let there := logicalPath here dest
  match ← Machine.ask (.changeDirectory (if isPhysical then dest else there)) with
  | .error _ => return false
  | .ok () =>
    let there ← if isPhysical then pure (Path.text (← Machine.ask .directory)) else pure there
    Machine.assignWith "OLDPWD".toList (some here) true
    Machine.assignWith "PWD".toList (some there) true
    modify fun s => { s with here := there }
    return true

/-- The first directory of a list in which there is a directory of some name. -/
def findDirectory (dest : Text) : List Text → Machine (Option (Text × Bool))
  | [] => return none
  | start :: rest => do
    let path := if start.isEmpty then dest else start ++ '/' :: dest
    match ← Machine.ask (.look path true) with
    | some ⟨_, ⟨.directory, _, _⟩⟩ => return some (path, !start.isEmpty)
    | _ => findDirectory dest rest

def splitColons (t : Text) : List Text := splitText ':' t

def changeDirectory (arguments : List Text) : Machine Unit := do
  let (options, rest) ← options "LP" arguments
  let isPhysical := options.getLast?.any fun o => o.1 = 'P'
  let (dest, shows) ← match rest with
    | [] => pure ((← Machine.valueOf "HOME".toList).getD [], false)
    | ['-'] :: _ => pure ((← Machine.valueOf "OLDPWD".toList).getD [], true)
    | t :: _ => pure (t, false)
  let isDirect := dest.head? = some '/' || (namesOf dest).head? = some ['.'] ||
    (namesOf dest).head? = some ['.', '.']
  let dest := if dest.isEmpty then ['.'] else dest
  let (path, shows) ←
    if isDirect then pure (dest, shows)
    else
      let starts := match ← Machine.valueOf "CDPATH".toList with
        | some t => splitColons t
        | none => []
      match ← findDirectory dest starts with
      | some (path, isElsewhere) => pure (path, shows || isElsewhere)
      | none => pure (dest, shows)
  if !(← enter path isPhysical) then
    Machine.fail ("can't cd to ".toList ++ dest)
  if shows then Machine.emit ((← get).here ++ ['\n'])
  Machine.succeed

def printDirectory (arguments : List Text) : Machine Unit := do
  let (options, _) ← options "LP" arguments
  let isPhysical := options.getLast?.any fun o => o.1 = 'P'
  let place ← if isPhysical then pure (Path.text (← Machine.ask .directory)) else pure (← get).here
  Machine.emit (place ++ ['\n'])
  Machine.succeed

inductive Meaning
  | special
  | builtin
  | function (f : Function)
  /-- A program, with its path. -/
  | program (path : Text)
  | missing

/-- The first directory of a list that holds a file of some name. -/
def findProgram (name : Text) : List Text → Machine (Option Text)
  | [] => return none
  | start :: rest => do
    let path := if start.isEmpty then name else start ++ '/' :: name
    match ← Machine.ask (.look path true) with
    | some ⟨_, ⟨.regular _, _, _⟩⟩ | some ⟨_, ⟨.program, _, _⟩⟩ => return some path
    | _ => findProgram name rest

/-- Where programs are looked for if a shell is not told. -/
def usualPath : String := "/usr/local/sbin:/usr/local/bin:/usr/sbin:/usr/bin:/sbin:/bin"

/-- The commands that are part of a shell, besides those of the language. -/
def commands : List String :=
  ["alias", "bg", "cd", "chdir", "command", "echo", "false", "fg", "getopts", "hash", "jobs",
    "kill", "printf", "pwd", "read", "test", "[", "true", "type", "ulimit", "umask", "unalias",
    "wait"]

def isCommand (name : Text) : Bool := commands.contains (String.ofList name)

def meaning (name : Text) (withFunctions : Bool) (path : Option Text) : Machine Meaning := do
  if name.contains '/' then return .program name
  let s ← get
  if isSpecialCommand name then return .special
  match if withFunctions then s.functions.lookup name else none with
  | some f => return .function f
  | none =>
    if isCommand name then return .builtin
    let path := path.getD ((s.value? "PATH".toList).getD [])
    match ← findProgram name (splitColons path) with
    | some file => return .program file
    | none => return .missing

/-- Tells what a name stands for: in a sentence, or in a form that can be read again. -/
def describe (isLong : Bool) (path : Option Text) (name : Text) : Machine Bool := do
  let say (long : String) (short : Text) : Machine Bool := do
    Machine.emit ((if isLong then name ++ long.toList else short) ++ ['\n'])
    return true
  if keywords.contains (String.ofList name) then say " is a shell keyword" name
  else match (← get).aliases.lookup name with
    | some value =>
      say (" is an alias for " ++ String.ofList value)
        ("alias ".toList ++ name ++ '=' :: singleQuoted value)
    | none =>
      match ← meaning name true path with
      | .special => say " is a special shell builtin" name
      | .builtin => say " is a shell builtin" name
      | .function _ => say " is a shell function" name
      | .program file =>
        let isThere ← if name.contains '/' then
            pure (← Machine.ask (.look file true)).isSome
          else pure true
        if isThere then
          let known := (← get).known.contains name
          if path.isNone && !known && !name.contains '/' then
            modify fun s => { s with known := s.known ++ [name] }
          say ((if known then " is a tracked alias for " else " is ") ++ String.ofList file) file
        else
          if isLong then Machine.emit (name ++ ": not found\n".toList)
          return false
      | .missing =>
        if isLong then Machine.emit (name ++ ": not found\n".toList)
        return false

def describeAll (isLong : Bool) (path : Option Text) (names : List Text) : Machine Unit := do
  Machine.succeed
  for name in names do
    if !(← describe isLong path name) then Machine.setStatus 127

def type (arguments : List Text) : Machine Unit := describeAll true none arguments

def hash (arguments : List Text) : Machine Unit := do
  let (options, names) ← options "r" arguments
  Machine.succeed
  if !options.isEmpty then modify fun s => { s with known := [] }
  else
    if names.isEmpty then
      for name in inRows 31 id (← get).known do
        if let .program file ← meaning name false none then Machine.emit (file ++ ['\n'])
    for name in names do
      match ← meaning name true none with
      | .missing =>
        Machine.warn (name ++ ": not found".toList)
        Machine.setStatus 1
      | .program _ =>
        if !name.contains '/' then
          modify fun s => { s with known := s.known.filter (· ≠ name) ++ [name] }
      | _ => pure ()

end NodeDiscovery.Shell.Builtin
