import NodeDiscovery.Shell.Builtin.Options
import NodeDiscovery.Shell.Field

/-! Commands that change variables, options and parameters. -/
namespace NodeDiscovery.Shell.Builtin

/-- Writes variables in the order of their names, each as an assignment. -/
def showVariables (start : String) (chosen : Variable → Bool) : Machine Unit := do
  let bindings := (← get).bindings.filter fun v => chosen v.2
  for (name, v) in bindings.mergeSort fun a b => !textLess b.1 a.1 do
    let lead := if start.isEmpty then [] else start.toList ++ [' ']
    let value := match v.value with
      | some t => '=' :: singleQuoted t
      | none => []
    Machine.emit (lead ++ name ++ value ++ ['\n'])

def markVariables (command : String) (mark : Variable → Variable) (isMarked : Variable → Bool)
    (arguments : List Text) : Machine Unit := do
  let (options, names) ← options "p" arguments
  if names.isEmpty || !options.isEmpty then showVariables command isMarked
  else for t in names do
    let (name, value) := splitAssignment t
    match value with
    | some value => Machine.assign name value
    | none =>
      if ((← get).binding? name).isNone then Machine.assignWith name none false
    modify fun s => match s.binding? name with
      | some v => s.putVariable name (mark v)
      | none => s
  Machine.succeed

def export_ : List Text → Machine Unit :=
  markVariables "export" (fun v => { v with isExported := true }) (·.isExported)

def readOnly : List Text → Machine Unit :=
  markVariables "readonly" (fun v => { v with isReadOnly := true }) (·.isReadOnly)

/-- Keeps variables for the end of the function under way, and perhaps gives them values. A dash
keeps the options. -/
def local_ (arguments : List Text) : Machine Unit := do
  if (← get).scopes.isEmpty then Machine.failWith "not in a function"
  for t in arguments do
    if t = ['-'] then Machine.keepOptions
    else
      let (name, value) := splitAssignment t
      if value.isNone then Machine.checkName name
      Machine.keep name
      match value with
      | some value => Machine.assignAny name (some value) false
      | none => if ((← get).binding? name).isNone then Machine.assignWith name none false
  Machine.succeed

def unset (arguments : List Text) : Machine Unit := do
  let (options, names) ← options "vf" arguments
  let ofFunctions := options.getLast?.any fun o => o.1 = 'f'
  for name in names do
    if ofFunctions then
      modify fun s => { s with functions := s.functions.filter (·.1 ≠ name) }
    else
      Machine.checkName name
      Machine.unset name
  Machine.succeed

def optionNames : List (String × Option Char) :=
  [("errexit", some 'e'), ("noglob", some 'f'), ("ignoreeof", some 'I'),
    ("interactive", some 'i'), ("monitor", some 'm'), ("noexec", some 'n'), ("stdin", some 's'),
    ("xtrace", some 'x'), ("verbose", some 'v'), ("vi", some 'V'), ("emacs", some 'E'),
    ("noclobber", some 'C'), ("allexport", some 'a'), ("notify", some 'b'), ("nounset", some 'u'),
    ("nolog", none), ("debug", none)]

def switch (letter : Char) (on : Bool) : Machine Unit := modify fun s =>
  { s with options :=
      if on then if s.options.contains letter then s.options else letter :: s.options
      else s.options.filter (· ≠ letter) }

/-- Turns an option on or off. Jobs cannot be monitored without a terminal. -/
def switchOption (letter : Char) (on : Bool) : Machine Unit := do
  if optionNames.any fun o => o.2 = some letter then
    let me ← Machine.ask .identify
    if letter = 'm' && on && me.process = (← get).root then
      Machine.warn "can't access tty; job control turned off".toList
    else switch letter on
  else Machine.fail ("Illegal option -".toList ++ [letter])

/-- Turns an option on or off by its name; without a name the options are shown. -/
def switchNamed (name : Option Text) (on : Bool) : Machine Unit := do
  match name with
  | some name =>
    match optionNames.find? fun o => o.1.toList = name with
    | some (_, some letter) => switchOption letter on
    | some (_, none) => pure ()
    | none => Machine.fail ("Illegal option -o ".toList ++ name)
  | none =>
    let isOn (letter : Option Char) : Machine Bool :=
      return letter.any (← get).options.contains
    if on then
      Machine.emit "Current option settings\n".toList
      for (name, letter) in optionNames do
        let gap := List.replicate (16 - name.length) ' '
        Machine.emit (name.toList ++ gap ++ (if ← isOn letter then "on\n" else "off\n").toList)
    else for (name, letter) in optionNames do
      Machine.emit (("set " ++ (if ← isOn letter then "-o " else "+o ") ++ name ++ "\n").toList)

/-- Reads the letters of options in an argument; the rest of the arguments comes out. -/
def switchLetters (on : Bool) : Text → List Text → Machine (List Text)
  | [], rest => return rest
  | 'o' :: letters, rest => do
    switchNamed rest.head? on
    switchLetters on letters rest.tail
  | letter :: letters, rest => do
    switchOption letter on
    switchLetters on letters rest

/-- Sets options, and the parameters if any are given; the number bounds the arguments. -/
def setOptions : Nat → List Text → Machine Unit
  | 0, _ | _, [] => pure ()
  | n + 1, argument :: rest => do
    match argument with
    | ['-'] =>
      switch 'x' false
      switch 'v' false
      if !rest.isEmpty then modify fun s => { s with positional := rest }
    | ['-', '-'] => modify fun s => { s with positional := rest }
    | '-' :: letters => setOptions n (← switchLetters true letters rest)
    | '+' :: letters => setOptions n (← switchLetters false letters rest)
    | _ => modify fun s => { s with positional := argument :: rest }

def set_ (arguments : List Text) : Machine Unit := do
  if arguments.isEmpty then showVariables "" fun v => v.value.isSome
  else setOptions arguments.length arguments
  Machine.succeed

/-- Sets the options that a shell is started with. Whether a command comes after them is told with
the rest; the number bounds the arguments. -/
def startOptions : Nat → Bool → List Text → Machine (Bool × List Text)
  | 0, isCommand, arguments => return (isCommand, arguments)
  | n + 1, isCommand, arguments => do
    match arguments with
    | ['-'] :: rest | ['-', '-'] :: rest => return (isCommand, rest)
    | (sign :: letters) :: rest =>
      if sign = '-' || sign = '+' then
        let switched := letters.filter fun c => c ≠ 'c' && c ≠ 'l'
        let rest ← switchLetters (sign = '-') switched rest
        startOptions n (isCommand || letters.contains 'c') rest
      else return (isCommand, arguments)
    | _ => return (isCommand, arguments)

def shift (arguments : List Text) : Machine Unit := do
  let n ← match arguments with
    | [] => pure 1
    | t :: _ => count t
  if (← get).positional.length < n then Machine.failWith "can't shift that many"
  modify fun s => { s with positional := s.positional.drop n }
  Machine.succeed

/-- What is left of an argument with options at which the next one stands, and the arguments after
it. -/
def nextOption? (index offset : Nat) (arguments : List Text) : Option (Text × Nat) :=
  let under := if index ≤ 1 || offset = 0 then [] else ((arguments[index - 2]?).getD []).drop offset
  if !under.isEmpty then some (under, index)
  else match arguments[index - 1]? with
    | some ('-' :: c :: more) => some (c :: more, index + 1)
    | _ => none

/-- Takes the next option of the parameters, or of other arguments. -/
def getOption (arguments : List Text) : Machine Unit := do
  match ← operands arguments with
  | letters :: variable_ :: others =>
    let s ← get
    let all := if others.isEmpty then s.positional else others
    let (index, offset) := if all.length + 1 < s.optionIndex then (1, 0)
      else (s.optionIndex, s.optionOffset)
    let isQuiet := letters.head? = some ':'
    let finish (name : Text) (index offset status : Nat) : Machine Unit := do
      Machine.assign "OPTIND".toList (textOfNat index)
      Machine.assign variable_ name
      modify fun s => { s with optionIndex := index, optionOffset := offset }
      Machine.setStatus status
    let complain (message : String) (c : Char) (after : String) (quiet : Char) :
        Machine Text := do
      if isQuiet then
        Machine.assign "OPTARG".toList [c]
        return [quiet]
      else
        Machine.put 2 (message.toList ++ c :: after.toList ++ ['\n'])
        Machine.unset "OPTARG".toList
        return ['?']
    match nextOption? index offset all with
    | none => finish ['?'] index 0 1
    | some (['-'], next) =>
      if next = index + 1 then finish ['?'] next 0 1
      else finish (← complain "Illegal option -" '-' "" '?') next 0 0
    | some (c :: more, next) =>
      let place := if more.isEmpty then 0
        else ((all[next - 2]?).getD []).length - more.length
      match (if isQuiet then letters.tail else letters).dropWhile (· ≠ c) with
      | [] => finish (← complain "Illegal option -" c "" '?') next place 0
      | _ :: after =>
        if c = ':' then finish (← complain "Illegal option -" c "" '?') next place 0
        else if after.head? = some ':' then
          match more, all[next - 1]? with
          | [], none => finish (← complain "No arg for -" c " option" ':') next 0 0
          | [], some value =>
            Machine.assign "OPTARG".toList value
            finish [c] (next + 1) 0 0
          | value, _ =>
            Machine.assign "OPTARG".toList value
            finish [c] next 0 0
        else
          Machine.assign "OPTARG".toList []
          finish [c] next place 0
    | some ([], next) => finish ['?'] next 0 1
  | _ => Machine.failWith "Usage: getopts optstring var [arg]"

/-- A line under way: its parts backwards, and whether a backslash has quoted what comes next. -/
structure LineProgress where
  parts : List Fragment
  isEscaped : Bool
  isWhole : Bool

/-- Takes up a character of a line. Quoted characters separate nothing. -/
def LineProgress.push (raw : Bool) (l : LineProgress) (c : Char) : LineProgress :=
  if c = '\x00' || l.isWhole then l
  else if l.isEscaped then
    { l with isEscaped := false, parts := if c = '\n' then l.parts else .char c true :: l.parts }
  else if c = '\\' && !raw then { l with isEscaped := true }
  else if c = '\n' then { l with isWhole := true }
  else match l.parts with
    | .region false t :: parts => { l with parts := .region false ((c, false) :: t) :: parts }
    | parts => { l with parts := .region false [(c, false)] :: parts }

/-- Reads a line, which goes on after a quoted line end; the number bounds its parts. -/
def readParts (raw : Bool) : Nat → LineProgress → Machine LineProgress
  | 0, l => return l
  | n + 1, l => do
    match ← Machine.ask (.readLine 0) with
    | .error _ | .ok [] => return l
    | .ok t =>
      let l := t.foldl (LineProgress.push raw) l
      if l.isWhole then return l else readParts raw n l

def assignAll : List Text → List Text → Machine Unit
  | [], _ => pure ()
  | name :: names, values => do
    Machine.assign name (values.headD [])
    assignAll names values.tail

/-- Reads a line into variables: a field into each, and into the last one all that is left. -/
def read (arguments : List Text) : Machine Unit := do
  let (options, names) ← options "p:r" arguments
  if names.isEmpty then Machine.failWith "arg count"
  let l ← readParts (options.any (·.1 = 'r')) Machine.bound ⟨[], false, false⟩
  let parts := l.parts.reverse.map fun
    | .region p t => .region p t.reverse
    | part => part
  let fields := Expanded.split (← get).separators (some names.length) parts
  assignAll names (fields.map fun field => field.map Prod.fst)
  Machine.setStatus (if l.isWhole then 0 else 1)

def alias_ (arguments : List Text) : Machine Unit := do
  let show_ (a : Text × Text) : Machine Unit :=
    Machine.emit (a.1 ++ '=' :: singleQuoted a.2 ++ ['\n'])
  Machine.succeed
  if arguments.isEmpty then
    for a in inRows 39 Prod.fst (← get).aliases do show_ a
  for t in arguments do
    match t, splitAssignment t.tail with
    | c :: _, (name, some value) =>
      let other := (c :: name, value)
      modify fun s => { s with
        aliases := if s.aliases.any (·.1 = c :: name) then
            s.aliases.map fun a => if a.1 = c :: name then other else a
          else s.aliases ++ [other] }
    | _, _ =>
      match (← get).aliases.lookup t with
      | some value => show_ (t, value)
      | none =>
        Machine.put 2 ("alias: ".toList ++ t ++ " not found\n".toList)
        Machine.setStatus 1

def unalias (arguments : List Text) : Machine Unit := do
  let (options, names) ← options "a" arguments
  Machine.succeed
  if !options.isEmpty then modify fun s => { s with aliases := [] }
  for name in names do
    if ((← get).aliases.lookup name).isSome then
      modify fun s => { s with aliases := s.aliases.filter (·.1 ≠ name) }
    else
      Machine.put 2 ("unalias: ".toList ++ name ++ " not found\n".toList)
      Machine.setStatus 1

end NodeDiscovery.Shell.Builtin
