import NodeDiscovery.Shell.Builtin
import NodeDiscovery.Shell.Runner
import NodeDiscovery.Shell.Tool

/-! Commands made of words: functions, commands of the shell, and programs. -/
namespace NodeDiscovery.Shell
open Machine

/-- The words of a command line, as far as they have been expanded. -/
structure Line where
  words : List Text := []
  rest : List Word
  /-- How many words were gone over. -/
  start : Nat := 0
  /-- Where the program is looked for, if not in the usual places. -/
  path : Option Text := none
  /-- Functions do not count after `command`. -/
  skipsFunctions : Bool := false

def assigningCommands : List String := ["alias", "export", "local", "readonly"]

/-- A shell in which so many functions are under way has no room for more. -/
def maxDepth : Nat := 8000

namespace Machine

def runBuiltin (name : Text) (x : Machine Unit) : Machine Unit := do
  let before := (← get).running
  modify fun s => { s with running := some name, buffer := [], hasFailed := false }
  restoring (fun s => { s with running := before }) do
    x
    flush
    if (← get).hasFailed then
      warn (name ++ ": I/O error".toList)
      modify fun s => { s with status := s.status ||| 1 }

/-- Says what a command will be, for `command -v` and its like. -/
def describeCommand (arguments : List Text) : Machine Unit := do
  let (options, names) ← Builtin.options "pvV" arguments
  succeed
  let path := if options.any (·.1 = 'p') then some Builtin.usualPath.toList else none
  if options.any fun o => o.1 = 'v' || o.1 = 'V' then
    Builtin.describeAll (options.any (·.1 = 'V')) path (names.take 1)

def failToStart {α : Type} (name : Text) (e : Refusal) : Machine α := do
  let isMissing := e = .noEntry || e = .notDirectory
  let reason := if isMissing then "not found" else e.message
  warn (name ++ (": " ++ reason).toList)
  setStatus (if isMissing || e = .tooManyLinks then 127 else 126)
  throw .ended

/-- The file that a script is read from: with a slash in its name as it is, or else along the
path. -/
def findScript (name : Text) : Machine Text := do
  if name.contains '/' then return name
  let rec search : List Text → Machine (Option Text)
    | [] => return none
    | start :: rest => do
      let path := if start.isEmpty then name else start ++ '/' :: name
      match ← ask (.look path true) with
      | some ⟨_, ⟨.regular _, _, _⟩⟩ | some ⟨_, ⟨.program, _, _⟩⟩ => return some path
      | _ => search rest
  match ← search (Builtin.splitColons (← get).places) with
  | some path => return path
  | none => fail (name ++ ": not found".toList)

end Machine

namespace Runner
variable (r : Runner)

def expandFirst (l : Line) : List Word → Machine Line
  | [] => return { l with rest := [] }
  | w :: rest => do
    let fields ← r.expandFields w
    let l := { l with words := l.words ++ fields, rest }
    if fields.isEmpty then expandFirst l rest else return l

/-- Expands words until there are more than some number of them, or no more to be expanded. -/
def expandTo (count : Nat) (l : Line) : Machine Line :=
  if l.words.length ≤ count then r.expandFirst l l.rest else return l

/-- Goes over options of `command`, and says where the command is that follows. The number bounds
the options. -/
def skipOptions : Nat → Nat → Line → Machine (Line × Option Nat)
  | 0, _, l => return (l, none)
  | n + 1, place, l => do
    let l ← r.expandTo place l
    match l.words[place]? with
    | none => return (l, none)
    | some ['-', '-'] =>
      let l ← r.expandTo (place + 1) l
      return (l, if place + 1 < l.words.length then some (place + 1) else none)
    | some ('-' :: c :: more) =>
      if (c :: more).all (· = 'p') then
        skipOptions n (place + 1) { l with path := some Builtin.usualPath.toList }
      else return (l, none)
    | some _ => return (l, some place)

/-- Goes over every `command` at the beginning of a command line; the number bounds how many. -/
def skipCommands : Nat → Line → Machine Line
  | 0, l => return l
  | n + 1, l => do
    let s ← get
    let name := l.words.getD l.start []
    let isFunction := !l.skipsFunctions && (s.functions.lookup name).isSome
    if name = "command".toList && !isFunction then
      match ← r.skipOptions bound (l.start + 1) l with
      | (found, some start) => skipCommands n { found with start, skipsFunctions := true }
      | (found, none) => return { found with path := l.path }
    else return l

def assignWords (isLocal exports : Bool) (assignments : List (Text × Word)) :
    Machine (List Text) :=
  assignments.mapM fun (name, w) => do
    let value ← r.expandText .value w
    if isLocal then keep name
    assignWith name (some value) (isLocal || exports)
    return name ++ '=' :: value

def trace (isRedirected : Bool) (words : List Text) : Machine Unit := do
  let s ← get
  let start := (s.value? "PS4".toList).getD []
  let lead ← match readQuoted.run (.start start [] s.fresh) with
    | .ok (w, _) => do
      set { s with options := s.options.filter (· ≠ 'x') }
      restoring (fun t => { t with options := s.options }) (r.expandText .quoted w)
    | .error _ => pure start
  let t := lead ++ [' '].intercalate words ++ ['\n']
  let _ ← ask (if isRedirected then .writeBehind 2 t else .write 2 t)

def callFunction (m : Mode) (f : Function) (arguments : List Text) : Machine Unit := do
  let s ← get
  if maxDepth < s.depth then
    let me ← ask .identify
    let _ ← ask (.kill me.process 11)
  set { s with
    positional := arguments
    functionLine := f.line
    loopDepth := 0
    depth := s.depth + 1
    optionIndex := 1
    optionOffset := 0 }
  let back (t : Session) : Session := { t with
    positional := s.positional
    functionLine := s.functionLine
    loopDepth := s.loopDepth
    depth := s.depth
    optionIndex := s.optionIndex
    optionOffset := s.optionOffset }
  restoring back do
    try r.run { isTested := m.isTested } f.body catch
      | .return _ => pure ()
      | stop => throw stop

def runShell (name : Text) (arguments : List Text) : Machine Unit := do
  let me ← ask .identify
  let given := (← get).bindings.filterMap fun v => v.2.value.map (v.1, ·)
  let here := Path.text (← ask .directory)
  set (Session.start name given me here)
  r.toEnd do
    let (isCommand, arguments) ← Builtin.startOptions arguments.length false arguments
    match isCommand, arguments with
    | true, [] => failWith "-c requires an argument"
    | true, line :: arguments =>
      modify fun s => { s with name := arguments.headD s.name, positional := arguments.tail }
      r.runText { isLast := true } line
    | false, arguments =>
      let s ← get
      if arguments.isEmpty || s.options.contains 's' then
        let options := 's' :: s.options.filter (· ≠ 's')
        set { s with positional := arguments, options }
        match ← readAll 0 bound with
        | .ok t => r.runText {} t
        | .error _ => pure ()
      else
        let path := arguments.headD []
        let t ← readFile path
        modify fun s => { s with name := path, positional := arguments.tail }
        r.runText {} t

/-- Runs a file that is no program: with the interpreter that its first line names, or as a
script. -/
def runScriptFile (path t : Text) (arguments : List Text) : Machine Unit := do
  match t with
  | '#' :: '!' :: rest =>
    let words := (splitText ' ' (rest.takeWhile (· ≠ '\n'))).filter (!·.isEmpty)
    let s ← get
    r.execute (s.bindings.filterMap fun v => v.2.value.map (v.1, ·)) s.places
      (words ++ path :: arguments)
  | _ => r.runShell path (path :: arguments)

def runTool (tool name : Text) (arguments : List Text) : Machine Unit := do
  if ["bash", "dash", "sh"].contains (String.ofList tool) then r.runShell name arguments
  else match Tool.find? r.execute tool with
    | some act => act arguments
    | none => setStatus 127

/-- Becomes a program: one of the system, or a shell that runs a script. -/
def become (environment : List (Text × Text)) (places : Text) (words : List Text) :
    Machine Unit := do
  let name := words.headD []
  match ← locate places name with
  | .error e => failToStart name e
  | .ok (path, node) =>
    ask .become
    conclude do
      modify fun s => { s with
        bindings := environment.map fun v => (v.1, ⟨some v.2, true, false⟩)
        traps := []
        options := [] }
      match node.content with
      | .regular t => r.runScriptFile path t words.tail
      | _ => r.runTool (path.reverse.takeWhile (· ≠ '/')).reverse name words.tail

/-- Runs a program, in a process of its own unless nothing comes after it. -/
def runProgram (m : Mode) (path : Option Text) (words : List Text) : Machine Unit := do
  let name := words.headD []
  let s ← get
  let places := path.getD s.places
  let isThere ←
    if name.contains '/' then pure true
    else pure (← Builtin.findProgram name (Builtin.splitColons places)).isSome
  if !isThere then
    warn (name ++ ": not found".toList)
    setStatus 127
  else
    if !(name.contains '/' || s.known.contains name) then set { s with known := s.known ++ [name] }
    let act : Machine Unit := r.become s.exported places words
    if m.isLast && !s.hasTraps then act
    else await [← spawn (do settle .nothing; act)]

def callBuiltin (m : Mode) (name : Text) (arguments : List Text) : Machine Unit := do
  match String.ofList name with
  | "eval" =>
    if arguments.isEmpty then succeed
    else r.runText { isTested := m.isTested } ([' '].intercalate arguments)
  | "command" => describeCommand arguments
  | "exec" =>
    match ← Builtin.operands arguments with
    | [] => succeed
    | words =>
      let s ← get
      r.become s.exported s.places words
  | "." =>
    match ← Builtin.operands arguments with
    | [] => succeed
    | name :: _ =>
      let path ← findScript name
      let t ← readFile path
      modify fun s => { s with running := some path }
      try r.runText {} t catch
        | .return _ => pure ()
        | stop => throw stop
  | _ =>
    match Builtin.find? name with
    | some act => act arguments
    | none => setStatus 127

def runSimple (m : Mode) (line : Nat) (assignments : List (Text × Word)) (words : List Word)
    (redirections : List Redirection) : Machine Unit := do
  modify fun s => { s with line, substituted := 0 }
  let l ← r.skipCommands bound (← r.expandFirst { rest := [] } words)
  let s ← get
  let name := l.words.getD l.start []
  let function := if l.skipsFunctions then none else s.functions.lookup name
  let isBuiltin := function.isNone && (isSpecialCommand name || Builtin.isCommand name)
  let isSpecial := isSpecialCommand name && !l.skipsFunctions
  let isExec := isBuiltin && name = "exec".toList
  let assigns := isBuiltin && assigningCommands.contains (String.ofList name)
  let others ← if assigns then r.expandAssigning l.rest else r.expandAll l.rest
  let words := l.words ++ others
  let arguments := words.drop (l.start + 1)
  let aims ← r.prepare redirections
  underRedirections isExec (aims.map (·.descriptor)) do
    if !(← redirectSafely r.documentText aims) then
      if isSpecial then throw .failure
    else
      let isLocal := !words.isEmpty && !isSpecial
      let act : Machine Unit := do
        let assigned ← r.assignWords isLocal (isExec && !arguments.isEmpty) assignments
        if ← isOn 'x' then r.trace (!aims.isEmpty) (assigned ++ words)
        if words.isEmpty then modify fun s => { s with status := s.substituted }
        else match function with
          | some f => r.callFunction m f arguments
          | none =>
            if isBuiltin then
              try runBuiltin name (r.callBuiltin m name arguments) catch
                | .failure => if isSpecial then throw .failure
                | stop => throw stop
            else r.runProgram m l.path (name :: arguments)
      let hasScope := isLocal &&
        (!assignments.isEmpty || function.isSome || (isBuiltin && l.skipsFunctions))
      if hasScope then inScope act else act

end Runner
end NodeDiscovery.Shell
