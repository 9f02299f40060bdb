import NodeDiscovery.Shell.Builtin.Options
import NodeDiscovery.Shell.Jobs

/-! Commands about processes and signals. -/
namespace NodeDiscovery.Shell.Builtin

def signal? (least : Nat) (t : Text) : Option Nat :=
  match natural? t with
  | some n => if n < Signal.bound then some n else none
  | none => Signal.ofName? least (String.ofList t)

def killUsage : String :=
"Usage: kill [-s sigspec | -signum | -sigspec] [pid | job]... or
kill -l [exitstatus]"

def listSignals (arguments : List Text) : Machine Unit := do
  match arguments with
  | [] =>
    Machine.emit ['0', '\n']
    for n in (List.range Signal.bound).tail do
      Machine.emit ((Signal.name n).toList ++ ['\n'])
    Machine.succeed
  | t :: _ =>
    let n ← count t
    let n := if 128 < n then n - 128 else n
    if 0 < n && n < Signal.bound then
      Machine.emit ((Signal.name n).toList ++ ['\n'])
      Machine.succeed
    else Machine.fail ("invalid signal number or exit status: ".toList ++ t)

/-- Sends a signal to processes. Jobs are named like groups of processes, and there are none of
these. -/
def sendSignal (signal : Nat) : List Text → Machine Unit
  | [] => pure ()
  | t :: rest => do
    let isThere ← match t with
      | '%' :: _ =>
        if (← Machine.job? t).isNone then Machine.fail ("No such job: ".toList ++ t)
        pure false
      | '-' :: t =>
        let _ ← count t
        pure false
      | t => Machine.ask (.kill (← count t) signal)
    if !isThere then
      Machine.warn (Refusal.noProcess.message.toList ++ ['\n'])
      Machine.setStatus 1
    sendSignal signal rest

def kill (arguments : List Text) : Machine Unit := do
  Machine.succeed
  match arguments with
  | [] => Machine.failWith killUsage
  | ('-' :: name) :: rest =>
    match signal? 1 name with
    | some signal =>
      if rest.isEmpty then Machine.failWith killUsage
      sendSignal signal rest
    | none =>
      let (options, rest) ← options "ls:" arguments
      let isList := options.any (·.1 = 'l')
      let mut signal := none
      for (letter, value) in options do
        if letter = 's' then
          match signal? 1 value with
          | some n => signal := some n
          | none => Machine.fail ("invalid signal number or name: ".toList ++ value)
      if isList then
        if signal.isSome && !rest.isEmpty then Machine.failWith killUsage
        listSignals rest
      else
        if rest.isEmpty then Machine.failWith killUsage
        sendSignal (signal.getD 15) rest
  | rest => sendSignal 15 rest

def wait (arguments : List Text) : Machine Unit := do
  match ← operands arguments with
  | [] => Machine.awaitJobs (← get).jobs
  | names =>
    Machine.setStatus 127
    Machine.awaitNamed names

def jobs (arguments : List Text) : Machine Unit := do
  let (options, _) ← options "lp" arguments
  Machine.showJobs (options.getLast?.any fun o => o.1 = 'p')
    (options.getLast?.any fun o => o.1 = 'l')
  Machine.succeed

def provide (signal : Nat) (action : Option Text) : Machine Unit := do
  modify fun s => { s with traps := s.traps.filter (·.1 ≠ signal) }
  if let some action := action then
    modify fun s => { s with traps := (signal, action) :: s.traps }
  if signal ≠ 0 then
    Machine.ask (.handle signal (match action with
      | none => .usual
      | some [] => .ignored
      | some _ => .reported))

def provideAll (action : Option Text) : List Text → Machine Unit
  | [] => Machine.succeed
  | t :: rest => do
    match signal? 0 t with
    | none =>
      Machine.put 2 ("trap: ".toList ++ t ++ ": bad trap\n".toList)
      Machine.setStatus 1
    | some signal =>
      provide signal action
      provideAll action rest

def trap (arguments : List Text) : Machine Unit := do
  match ← operands arguments with
  | [] =>
    for (signal, action) in (← get).traps.mergeSort fun a b => a.1 ≤ b.1 do
      Machine.emit ("trap -- ".toList ++ singleQuoted action ++
        (" " ++ Signal.name signal ++ "\n").toList)
    Machine.succeed
  | [t] => provideAll none [t]
  | action :: signals =>
    match natural? action with
    | some n =>
      if n < Signal.bound then provideAll none (action :: signals)
      else provideAll (some action) signals
    | none => provideAll (if action = ['-'] then none else some action) signals

/-- The times that the shell and its processes have used, which are not told apart from none. -/
def times : Machine Unit := do
  let line := "0m0.000000s 0m0.000000s\n".toList
  Machine.emit (line ++ line)
  Machine.succeed

def octalDigits (n width : Nat) : Text :=
  let digits := Nat.toDigits 8 n
  List.replicate (width - digits.length) '0' ++ digits

def maskLetters (mask shift : Nat) : Text :=
  let bits := (mask >>> shift) &&& 7
  (if bits &&& 4 = 0 then ['r'] else []) ++ (if bits &&& 2 = 0 then ['w'] else []) ++
    (if bits &&& 1 = 0 then ['x'] else [])

/-- What a mask lets through after a change in letters: for whom, how, and what. The number bounds
the letters. -/
def changedRights (rights : Nat) : Nat → Nat → Nat → Text → Option Nat
  | 0, _, _, _ => none
  | n + 1, new, before, t =>
    let who := t.takeWhile "augo".toList.contains
    let position (c : Char) : Nat :=
      if c = 'a' then 0o111 else if c = 'u' then 0o100 else if c = 'g' then 0o010 else 0o001
    let positions := who.foldl (fun p c => p ||| position c) before
    let positions := if positions = 0 then 0o111 else positions
    match t.drop who.length with
    | [] => some new
    | op :: rest =>
      if !"=+-".toList.contains op then none
      else
        let letters := rest.takeWhile "rwxugoXs".toList.contains
        let value (c : Char) : Nat :=
          if c = 'r' then 4 else if c = 'w' then 2 else if c = 'x' then 1
          else if c = 'u' then rights >>> 6 else if c = 'g' then rights >>> 3
          else if c = 'o' then rights else if c = 'X' && rights &&& 0o111 ≠ 0 then 1 else 0
        let bits := (letters.foldl (fun v c => v ||| value c) 0 &&& 7) * positions
        let new :=
          if op = '-' then new - (new &&& bits)
          else if op = '+' then new ||| bits
          else bits ||| (new - (new &&& positions * 7))
        match rest.drop letters.length with
        | [] => some new
        | ',' :: rest => changedRights rights n new 0 rest
        | rest => changedRights rights n new positions rest

def umask (arguments : List Text) : Machine Unit := do
  let (options, rest) ← options "S" arguments
  match rest with
  | [] =>
    let mask ← Machine.ask (.mask none)
    if options.isEmpty then Machine.emit (octalDigits mask 4 ++ ['\n'])
    else Machine.emit ("u=".toList ++ maskLetters mask 6 ++ ",g=".toList ++ maskLetters mask 3 ++
      ",o=".toList ++ maskLetters mask 0 ++ ['\n'])
  | t :: _ =>
    match t with
    | c :: _ =>
      if c.isDigit then
        if t.all fun c => '0' ≤ c && c ≤ '7' then
          let _ ← Machine.ask (.mask (some (valueOfDigits 8 t &&& 0o777)))
        else Machine.fail ("Illegal number: ".toList ++ t)
      else
        let rights := 0o777 - (← Machine.ask (.mask none))
        match changedRights rights (t.length + 1) rights 0 t with
        | some new =>
          let _ ← Machine.ask (.mask (some (0o777 - (new &&& 0o777))))
        | none => Machine.fail ("Illegal mode: ".toList ++ t)
    | [] => pure ()
  Machine.succeed

/-- A limit. None of them is there, and setting one changes nothing. -/
def ulimit (arguments : List Text) : Machine Unit := do
  let (options, rest) ← options "HSatfdscmlpnvwr" arguments
  if rest.isEmpty then
    let limit := match options.getLast? with
      | some ('s', _) => "8192\n"
      | some ('c', _) => "0\n"
      | some ('n', _) => "1048576\n"
      | _ => "unlimited\n"
    Machine.emit limit.toList
  Machine.succeed

end NodeDiscovery.Shell.Builtin
