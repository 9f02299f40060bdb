import NodeDiscovery.Shell.Builtin
import NodeDiscovery.Shell.Startup
import NodeDiscovery.Shell.Tool.Streams

/-! Programs that start other programs, wait, or tell about the system. -/
namespace NodeDiscovery.Shell.Tool

def environment : Machine (List (Text × Text)) := do
  return (← get).bindings.filterMap fun v => v.2.value.map (v.1, ·)

def placesOf (bindings : List (Text × Text)) : Text :=
  (bindings.lookup "PATH".toList).getD "/bin:/usr/bin".toList

def runAs (execute : Execute) (tool : String) (bindings : List (Text × Text))
    (words : List Text) : Machine Unit := do
  let name := words.headD []
  match ← Machine.locate (placesOf bindings) name with
  | .ok _ => execute bindings (placesOf bindings) words
  | .error e =>
    fail tool (if e = .noEntry || e = .notDirectory then 127 else 126)
      (quoted name ++ (": " ++ e.message).toList)

/-- Puts a variable in the place of one of that name, or at the end. -/
def withVariable (bindings : List (Text × Text)) (name value : Text) : List (Text × Text) :=
  if bindings.any (·.1 = name) then
    bindings.map fun v => if v.1 = name then (name, value) else v
  else bindings ++ [(name, value)]

def showEnvironment (stop : Char) (bindings : List (Text × Text)) : Machine Unit :=
  say (bindings.flatMap fun v => v.1 ++ '=' :: v.2 ++ [stop])

def changeEnvironment (execute : Execute) (words : List Text) : Machine Unit := do
  let words := if words.head? = some ['-'] then "-i".toList :: words.tail else words
  let a ← arguments "env" 125 ⟨"iu:0C:", [("ignore-environment", 'i'), ("unset", 'u'),
    ("null", '0'), ("chdir", 'C')]⟩ false words
  let start ← if a.has 'i' then pure [] else environment
  let gone := (a.options.filter (·.1 = 'u')).map Prod.snd
  let start := start.filter fun v => !gone.contains v.1
  let isAssignment (w : Text) : Bool := w.contains '='
  let assigned := a.operands.takeWhile isAssignment
  let bindings := assigned.foldl (fun bindings w =>
    withVariable bindings (w.takeWhile (· ≠ '=')) (w.dropWhile (· ≠ '=')).tail) start
  if let some directory := a.value? 'C' then
    if let .error e ← Machine.ask (.changeDirectory directory) then
      fail "env" 125 ("cannot change directory to ".toList ++ quoted directory ++
        (": " ++ e.message).toList)
  match a.operands.dropWhile isAssignment with
  | [] => showEnvironment (if a.has '0' then '\x00' else '\n') bindings
  | command => runAs execute "env" bindings command

def printEnvironment (words : List Text) : Machine Unit := do
  let a ← arguments "printenv" 2 ⟨"0", [("null", '0')]⟩ true words
  let stop := if a.has '0' then '\x00' else '\n'
  let bindings ← environment
  if a.operands.isEmpty then showEnvironment stop bindings
  for name in a.operands do
    match bindings.lookup name with
    | some value => say (value ++ [stop])
    | none => Machine.setStatus 1

/-- Nanoseconds of a number of seconds, or of other units by the letter after it. -/
def duration? (t : Text) : Option Nat := do
  let (number, unit) := match t.getLast? with
    | some 's' => (t.dropLast, 1)
    | some 'm' => (t.dropLast, 60)
    | some 'h' => (t.dropLast, 3600)
    | some 'd' => (t.dropLast, 86400)
    | _ => (t, 1)
  if (number.dropWhile isSpace).head? = some '-' then none
  else
    let (d, rest) ← Double.scan number
    if !rest.isEmpty then none
    else match d with
      | .finite _ m e =>
        let (n, d) := scaled 2 e (m * unit * 1000000000) 1
        return (n + d - 1) / d
      | .infinite _ => return 1000000000000000000000
      | .nan _ => none

def sleep (words : List Text) : Machine Unit := do
  let a ← arguments "sleep" 1 ⟨"", []⟩ true words
  if a.operands.isEmpty then misuse "sleep" 1 "missing operand".toList
  let times ← a.operands.mapM fun t => match duration? t with
    | some n => pure n
    | none => misuse "sleep" 1 ("invalid time interval ".toList ++ quoted t)
  Machine.ask (.sleep (times.foldl (· + ·) 0))

/-- Writes its arguments. Escapes are resolved only on demand. -/
def writeArguments (words : List Text) : Machine Unit := do
  let rec strip : List Text → List Char → List Text × List Char
    | ('-' :: c :: more) :: rest, options =>
      if (c :: more).all "neE".toList.contains then strip rest (options ++ c :: more)
      else (('-' :: c :: more) :: rest, options)
    | words, options => (words, options)
  let (words, options) := strip words []
  let t := [' '].intercalate words
  let resolves := options.reverse.find? (· ≠ 'n') = some 'e'
  let (t, ended) := if resolves then unescape t else (t, false)
  say (if options.contains 'n' || ended then t else t ++ ['\n'])

def asProgram (name : String) (act : List Text → Machine Unit) (words : List Text) :
    Machine Unit := do
  modify fun s => { s with running := some name.toList }
  act words
  Machine.flush

/-- Runs another program in a process of its own, and says how that ended. -/
def runAndWait (execute : Execute) (tool : String) (words : List Text) : Machine Ending := do
  let bindings ← environment
  let process ← Machine.spawn (runAs execute tool bindings words)
  match ← Machine.ask (.wait process false) with
  | .ended e => return e
  | _ => return .exited 127

def limitTime (execute : Execute) (words : List Text) : Machine Unit := do
  let a ← arguments "timeout" 125 ⟨"s:k:v\x01\x02", [("signal", 's'), ("kill-after", 'k'),
    ("preserve-status", '\x01'), ("foreground", '\x02')]⟩ false words
  match a.operands with
  | limit :: command =>
    if command.isEmpty then misuse "timeout" 125 "missing operand".toList
    let some time := duration? limit
      | misuse "timeout" 125 ("invalid time interval ".toList ++ quoted limit)
    let signal ← match a.value? 's' with
      | none => pure 15
      | some t => match Builtin.signal? 1 t with
        | some n => pure n
        | none => misuse "timeout" 125 (quoted t ++ ": invalid signal".toList)
    let bindings ← environment
    let process ← Machine.spawn (runAs execute "timeout" bindings command)
    let start ← Machine.ask .clock
    let alarm ← Machine.spawn do
      if 0 < time then
        Machine.ask (.sleep time)
        let _ ← Machine.ask (.kill process signal)
        if let some t := a.value? 'k' then
          Machine.ask (.sleep ((duration? t).getD 0))
          let _ ← Machine.ask (.kill process 9)
    let e ← Machine.ask (.wait process false)
    let stop ← Machine.ask .clock
    let _ ← Machine.ask (.kill alarm 9)
    let _ ← Machine.ask (.wait alarm false)
    let isOver := 0 < time && start + time ≤ stop
    match e with
    | .ended (.killed 9) => Machine.setStatus 137
    | .ended e =>
      Machine.setStatus (if isOver && !a.has '\x01' && (e matches .killed _) then 124 else e.status)
    | _ => Machine.setStatus 125
  | [] => misuse "timeout" 125 "missing operand".toList

def passOn (execute : Execute) (tool : String) (known : Known) (words : List Text) :
    Machine Unit := do
  let a ← arguments tool 125 known false words
  if a.operands.isEmpty then
    if tool = "nice" then sayLine ['0'] else misuse tool 125 "missing operand".toList
  else
    if tool = "nohup" then Machine.ask (.handle 1 .ignored)
    runAs execute tool (← environment) a.operands

/-- The words of an input: blanks part them, and quotes and backslashes keep blanks. -/
def quotedWords : Nat → Text → Except Text (List Text)
  | 0, _ => .ok []
  | n + 1, t =>
    match t.dropWhile isSpace with
    | [] => .ok []
    | t => do
      let (w, rest) ← word (t.length + 1) t
      return w :: (← quotedWords n rest)
where
  word : Nat → Text → Except Text (Text × Text)
    | 0, _ | _, [] => .ok ([], [])
    | n + 1, c :: rest =>
      if isSpace c then .ok ([], c :: rest)
      else if c = '\\' then do
        let (w, after) ← word n rest.tail
        return (rest.take 1 ++ w, after)
      else if c = '\'' || c = '\"' then do
        let inside := rest.takeWhile (· ≠ c)
        match rest.drop inside.length with
        | _ :: after =>
          if inside.contains '\n' then .error (unmatched c)
          let (w, after) ← word n after
          return (inside ++ w, after)
        | [] => .error (unmatched c)
      else do
        let (w, after) ← word n rest
        return (c :: w, after)
  unmatched (c : Char) : Text :=
    ("unmatched " ++ (if c = '\'' then "single" else "double") ++
      " quote; by default quotes are special to xargs unless you use the -0 option").toList

/-- Puts one text in the place of another, wherever it stands. -/
def replaceText (old new : Text) : Nat → Text → Text
  | 0, t => t
  | _, [] => []
  | n + 1, c :: rest =>
    if !old.isEmpty && old.isPrefixOf (c :: rest) then
      new ++ replaceText old new n ((c :: rest).drop old.length)
    else c :: replaceText old new n rest

def inPieces {α : Type} (size : Nat) (l : List α) : List (List α) :=
  (List.range ((l.length + size - 1) / size)).map fun k => (l.drop (k * size)).take size

/-- Runs another program with words of its input as arguments. -/
def runWithInput (execute : Execute) (words : List Text) : Machine Unit := do
  let a ← arguments "xargs" 1 ⟨"n:I:0d:rL:tP:i", [("null", '0'), ("max-args", 'n'),
    ("replace", 'i'), ("delimiter", 'd'), ("no-run-if-empty", 'r'), ("max-lines", 'L'),
    ("verbose", 't'),
    ("max-procs", 'P')]⟩ false words
  let command := if a.operands.isEmpty then ["echo".toList] else a.operands
  let t := match ← Machine.readAll 0 Machine.bound with
    | .ok t => t
    | .error _ => []
  let parted (stop : Char) : List Text :=
    let parts := splitText stop t
    if parts.getLast? = some [] then parts.dropLast else parts
  let read (t : Text) : Machine (List Text) :=
    match quotedWords (t.length + 1) t with
    | .ok words => pure words
    | .error message => fail "xargs" 1 message
  let lines := (splitLines t).1
  let groups ← match a.value? 'I', (a.value? 'L').bind natural? with
    | some mark, _ => do
      let items ← if a.has '0' then pure (parted '\x00')
        else lines.filterMapM fun line => do
          let line := line.dropWhile isSpace
          pure (if line.isEmpty then none else some line)
      pure (items.map fun item =>
        command.map fun w => replaceText mark item (w.length + 1) w)
    | none, some size =>
      let nonblank := lines.filter fun line => !line.all isSpace
      let groups ← (inPieces (max 1 size) nonblank).mapM fun ls => read (joinLines ls)
      pure (groups.map (command ++ ·))
    | none, none =>
      let items ← if a.has '0' then pure (parted '\x00')
        else match a.value? 'd' with
          | some d => pure (parted ((unescape d).1.headD '\n'))
          | none => read t
      let groups := match (a.value? 'n').bind natural? with
        | some size => inPieces (max 1 size) items
        | none => if items.isEmpty then [] else [items]
      pure (if groups.isEmpty && !a.has 'r' then [command] else groups.map (command ++ ·))
  let mut status := 0
  for words in groups do
    if status < 124 then
      if a.has 't' then Machine.put 2 ([' '].intercalate words ++ ['\n'])
      match ← runAndWait execute "xargs" words with
      | .exited 0 => pure ()
      | .exited 255 =>
        Machine.put 2 ("xargs: ".toList ++ words.headD [] ++
          ": exited with status 255; aborting\n".toList)
        status := 124
      | .exited code => status := if code = 126 || code = 127 then code else 123
      | .killed signal =>
        Machine.put 2 ("xargs: ".toList ++ words.headD [] ++
          (": terminated by signal " ++ toString signal ++ "\n").toList)
        status := 125
  Machine.setStatus status

def identify (words : List Text) : Machine Unit := do
  let a ← arguments "id" 1 ⟨"ugGnr", [("user", 'u'), ("group", 'g'), ("groups", 'G'), ("name", 'n'),
    ("real", 'r')]⟩ true words
  if a.has 'u' || a.has 'g' || a.has 'G' then
    sayLine (if a.has 'n' then "root" else "0").toList
  else sayLine "uid=0(root) gid=0(root) groups=0(root)".toList

def describeSystem (words : List Text) : Machine Unit := do
  let a ← arguments "uname" 1 ⟨"asnrvmpio", [("all", 'a'), ("kernel-name", 's'), ("nodename", 'n'),
    ("kernel-release", 'r'), ("machine", 'm'), ("operating-system", 'o')]⟩ true words
  let parts := [('s', "Linux"), ('n', "localhost"), ('r', "5.15.0"), ('m', "x86_64"),
    ('o', "GNU/Linux")]
  let chosen := parts.filter fun p => a.has 'a' || a.has p.1 || (a.options.isEmpty && p.1 = 's')
  sayLine ((" ".intercalate (chosen.map Prod.snd)).toList)

end NodeDiscovery.Shell.Tool
