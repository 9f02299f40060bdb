import NodeDiscovery.Shell.Tool.Paths

/-! Programs that list, make and change files. -/
namespace NodeDiscovery.Shell.Tool

def isDirectory (path : Text) (follow : Bool) : Machine Bool := do
  return (← Machine.ask (.look path follow)).any fun f => f.node.content = .directory

def exists? (path : Text) : Machine Bool := do
  return (← Machine.ask (.look path false)).isSome

def inDirectory (directory name : Text) : Text :=
  if directory.getLast? = some '/' then directory ++ name else directory ++ '/' :: name

def told (tool action : String) (path : Text) (result : Except Refusal Unit) : Machine Unit := do
  if let .error e := result then
    complain tool ((action ++ " ").toList ++ quoted path ++ (": " ++ e.message).toList)

/-- Removes a file, and before it all that is inside; the number bounds the depth. -/
def removeTree : Nat → Text → Machine Unit
  | 0, _ => pure ()
  | n + 1, path => do
    if ← isDirectory path false then
      if let .ok names ← Machine.ask (.list path) then
        for name in names do removeTree n (inDirectory path name)
      told "rm" "cannot remove" path (← Machine.ask (.removeDirectory path))
    else told "rm" "cannot remove" path (← Machine.ask (.remove path))

def removeFiles (words : List Text) : Machine Unit := do
  let a ← arguments "rm" 1 ⟨"frRidvI", [("force", 'f'), ("recursive", 'r'), ("dir", 'd'),
    ("verbose", 'v')]⟩ true words
  if a.operands.isEmpty && !a.has 'f' then misuse "rm" 1 "missing operand".toList
  for path in a.operands do
    if !(← exists? path) then
      if !a.has 'f' then told "rm" "cannot remove" path (.error .noEntry)
    else if a.has 'r' || a.has 'R' then removeTree 1000 path
    else if (← isDirectory path false) && a.has 'd' then
      told "rm" "cannot remove" path (← Machine.ask (.removeDirectory path))
    else told "rm" "cannot remove" path (← Machine.ask (.remove path))

/-- Makes the directories on the way to one that are missing. -/
def makeParents (path : Text) : Machine Unit := do
  let names := splitText '/' path
  for count in (List.range names.length).tail do
    let before := ['/'].intercalate (names.take count)
    if !before.isEmpty && !(← exists? before) then
      told "mkdir" "cannot create directory" before (← Machine.ask (.makeDirectory before))

def makeDirectories (words : List Text) : Machine Unit := do
  let a ← arguments "mkdir" 1 ⟨"pm:v", [("parents", 'p'), ("mode", 'm'), ("verbose", 'v')]⟩ true
    words
  if a.operands.isEmpty then misuse "mkdir" 1 "missing operand".toList
  for path in a.operands do
    let path := if dropSlashes path = [] then path else dropSlashes path
    if a.has 'p' then
      makeParents path
      if !(← isDirectory path true) then
        told "mkdir" "cannot create directory" path (← Machine.ask (.makeDirectory path))
    else told "mkdir" "cannot create directory" path (← Machine.ask (.makeDirectory path))

def removeDirectories (words : List Text) : Machine Unit := do
  let a ← arguments "rmdir" 1 ⟨"pv", [("parents", 'p'), ("verbose", 'v')]⟩ true words
  if a.operands.isEmpty then misuse "rmdir" 1 "missing operand".toList
  for path in a.operands do
    told "rmdir" "failed to remove" path (← Machine.ask (.removeDirectory path))

def touchFiles (words : List Text) : Machine Unit := do
  let a ← arguments "touch" 1 ⟨"acmd:t:r:", [("no-create", 'c'), ("date", 'd'), ("reference", 'r')]⟩
    true words
  if a.operands.isEmpty then misuse "touch" 1 "missing file operand".toList
  for path in a.operands do
    if !a.has 'c' || (← exists? path) then
      told "touch" "cannot touch" path (← Machine.ask (.touch path))

/-- Where something goes: into a directory if the target is one. -/
def placeFor (target source : Text) : Machine Text := do
  return if ← isDirectory target true then inDirectory target (lastName source) else target

def forSources (tool : String) (a : Arguments) (act : Text → Text → Machine Unit) :
    Machine Unit := do
  match a.operands with
  | [] => misuse tool 1 "missing file operand".toList
  | [t] => misuse tool 1 ("missing destination file operand after ".toList ++ quoted t)
  | operands =>
    let target := operands.getLast?.getD []
    let sources := operands.dropLast
    if 1 < sources.length && !(← isDirectory target true) then
      misuse tool 1 ("target ".toList ++ quoted target ++ ": No such file or directory".toList)
    for source in sources do act source (← placeFor target source)

def moveFiles (words : List Text) : Machine Unit := do
  let a ← arguments "mv" 1 ⟨"fivnT", [("force", 'f'), ("no-clobber", 'n'), ("verbose", 'v')]⟩ true
    words
  forSources "mv" a fun source target => do
    if !(← exists? source) then told "mv" "cannot stat" source (.error .noEntry)
    else if let .error e ← Machine.ask (.rename source target) then
      complain "mv" ("cannot move ".toList ++ quoted source ++ " to ".toList ++ quoted target ++
        (": " ++ e.message).toList)

/-- Copies a file, and with `deep` all that is inside; the number bounds the depth. -/
def copyTree (deep : Bool) : Nat → Text → Text → Machine Unit
  | 0, _, _ => pure ()
  | n + 1, source, target => do
    match ← Machine.ask (.look source true) with
    | none => told "cp" "cannot stat" source (.error .noEntry)
    | some ⟨_, node⟩ =>
      if node.content = .directory then
        if !deep then
          complain "cp" ("-r not specified; omitting directory ".toList ++ quoted source)
        else
          if !(← isDirectory target true) then
            told "cp" "cannot create directory" target (← Machine.ask (.makeDirectory target))
          if let .ok names ← Machine.ask (.list source) then
            for name in names do
              copyTree deep n (inDirectory source name) (inDirectory target name)
      else match ← Machine.ask (.open 10 source .input) with
        | .error e => told "cp" "cannot open" source (.error e)
        | .ok () =>
          let t ← Machine.readAll 10 Machine.bound
          Machine.ask (.close 10)
          match ← Machine.ask (.open 10 target .output) with
          | .error e => told "cp" "cannot create regular file" target (.error e)
          | .ok () =>
            Machine.put 10 (match t with
              | .ok t => t
              | .error _ => [])
            Machine.ask (.close 10)

def copyFiles (words : List Text) : Machine Unit := do
  let a ← arguments "cp" 1 ⟨"rRafipvn", [("recursive", 'r'), ("archive", 'a'), ("force", 'f'),
    ("verbose", 'v')]⟩ true words
  forSources "cp" a (copyTree (a.has 'r' || a.has 'R' || a.has 'a') 1000)

def linkFiles (words : List Text) : Machine Unit := do
  let a ← arguments "ln" 1 ⟨"sfnvT", [("symbolic", 's'), ("force", 'f'),
    ("no-dereference", 'n')]⟩ true words
  let a := match a.operands with
    | [t] => { a with operands := [t, lastName t] }
    | _ => a
  forSources "ln" a fun source target => do
    if a.has 'f' then
      let _ ← Machine.ask (.remove target)
    if a.has 's' then
      if let .error e ← Machine.ask (.makeLink source target) then
        complain "ln" ("failed to create symbolic link ".toList ++ quoted target ++
          (": " ++ e.message).toList)
    else copyTree false 2 source target

/-- What changes about permissions: for whom, how, and which. -/
def changedMode (mode : Nat) (t : Text) : Option Nat :=
  if !t.isEmpty && t.all fun c => '0' ≤ c && c ≤ '7' then some (valueOfDigits 8 t)
  else (splitText ',' t).foldl (fun mode part => mode.bind fun mode =>
    let who := part.takeWhile "ugoa".toList.contains
    match part.drop who.length with
    | sign :: letters =>
      if !"+-=".toList.contains sign || !letters.all "rwxXst".toList.contains then none
      else
        let bits := (if letters.contains 'r' then 0o444 else 0) +
          (if letters.contains 'w' then 0o222 else 0) + (if letters.contains 'x' then 0o111 else 0)
        let ofAll := who.isEmpty || who.contains 'a'
        let range := (if ofAll || who.contains 'u' then 0o700 else 0) +
          (if ofAll || who.contains 'g' then 0o070 else 0) +
          (if ofAll || who.contains 'o' then 0o007 else 0)
        let bits := bits &&& (if who.isEmpty then 0o755 else range)
        if sign = '+' then some (mode ||| bits)
        else if sign = '-' then some (mode - (mode &&& bits))
        else some ((mode - (mode &&& range)) ||| bits)
    | [] => none) (some mode)

def changeModes (words : List Text) : Machine Unit := do
  match words with
  | mode :: paths =>
    for path in paths do
      match ← Machine.ask (.look path true) with
      | none => complain "chmod" ("cannot access ".toList ++ quoted path ++
          (": " ++ Refusal.noEntry.message).toList)
      | some ⟨_, node⟩ =>
        match changedMode node.mode mode with
        | some new =>
          told "chmod" "changing permissions of" path (← Machine.ask (.setMode path new))
        | none => misuse "chmod" 1 ("invalid mode: ".toList ++ quoted mode)
  | [] => misuse "chmod" 1 "missing operand".toList

def listFiles (words : List Text) : Machine Unit := do
  let a ← arguments "ls" 2 ⟨"1aAdFrpCxRlhtS", [("all", 'a'), ("almost-all", 'A'),
    ("directory", 'd'), ("reverse", 'r'), ("recursive", 'R')]⟩ true words
  let names := if a.operands.isEmpty then [['.']] else a.operands
  let inOrder (names : List Text) : List Text :=
    let sorted := names.mergeSort fun s t => !textLess t s
    if a.has 'r' then sorted.reverse else sorted
  let shown (name : Text) (node : Node) : Text :=
    if a.has 'F' || a.has 'p' then
      match node.content with
      | .directory => name ++ ['/']
      | .link _ => if a.has 'F' then name ++ ['@'] else name
      | _ => if a.has 'F' && node.mode &&& 0o111 ≠ 0 then name ++ ['*'] else name
    else name
  let mut files : List Text := []
  let mut directories : List Text := []
  for name in inOrder names do
    match ← Machine.ask (.look name (!a.has 'd')) with
    | none =>
      complain "ls" ("cannot access ".toList ++ quoted name ++
        (": " ++ Refusal.noEntry.message).toList)
      Machine.setStatus 2
    | some ⟨_, node⟩ =>
      if node.content = .directory && !a.has 'd' then directories := directories ++ [name]
      else files := files ++ [shown name node]
  say (joinLines files)
  let isFirst := files.isEmpty
  for (directory, index) in directories.zipIdx do
    if 1 < names.length then
      say ((if isFirst && index = 0 then [] else ['\n']) ++ directory ++ [':', '\n'])
    if let .ok inside ← Machine.ask (.list directory) then
      let inside := if a.has 'a' then ['.'] :: ['.', '.'] :: inside
        else if a.has 'A' then inside
        else inside.filter (·.head? ≠ some '.')
      for name in inOrder inside do
        match ← Machine.ask (.look (inDirectory directory name) false) with
        | some ⟨_, node⟩ => sayLine (shown name node)
        | none => sayLine name

def makeTemporary (words : List Text) : Machine Unit := do
  let a ← arguments "mktemp" 1 ⟨"dqut:p:", [("directory", 'd'), ("dry-run", 'u'),
    ("tmpdir", 'p')]⟩ true words
  let me ← Machine.ask .identify
  let number := textOfNat (1000000000 + me.process * 7919 % 1000000000)
  let path := match a.operands with
    | template :: _ =>
      let stem := (template.reverse.dropWhile (· = 'X')).reverse
      stem ++ number.take (template.length - stem.length)
    | [] => inDirectory ((a.value? 'p').getD "/tmp".toList) ("tmp.".toList ++ number)
  let result ← if a.has 'd' then Machine.ask (.makeDirectory path)
    else Machine.ask (.touch path)
  told "mktemp" "failed to create file via template" path result
  if result matches .ok _ then sayLine path

def resolvePaths (tool : String) (words : List Text) : Machine Unit := do
  let a ← arguments tool 1 ⟨"femnsqz", [("canonicalize", 'f'), ("canonicalize-existing", 'e'),
    ("canonicalize-missing", 'm'), ("no-newline", 'n')]⟩ true words
  if a.operands.isEmpty then misuse tool 1 "missing operand".toList
  let stop : Text := if a.has 'n' then [] else ['\n']
  let isWhole := tool = "realpath" || a.has 'f' || a.has 'e' || a.has 'm'
  for path in a.operands do
    match ← Machine.ask (.look path isWhole) with
    | some ⟨place, node⟩ =>
      if isWhole then say (place.text ++ stop)
      else match node.content with
        | .link target => say (target ++ stop)
        | _ => Machine.setStatus 1
    | none =>
      match ← Machine.ask (.look (directoryOf path) true), isWhole && !a.has 'e' with
      | some ⟨place, _⟩, true => say (Path.text (place ++ [lastName path]) ++ stop)
      | _, _ =>
        if tool = "realpath" then
          complain tool (path ++ (": " ++ Refusal.noEntry.message).toList)
        else Machine.setStatus 1

end NodeDiscovery.Shell.Tool
