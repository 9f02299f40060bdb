import NodeDiscovery.Shell.Tool.Columns
import NodeDiscovery.Shell.Tool.Search
import NodeDiscovery.Shell.Tool.Streams

/-! Editing lines one after the other by a script. -/
namespace NodeDiscovery.Shell.Tool

inductive LineAddress
  | number (n : Nat)
  | last
  | expression (r : Regex)
  /-- From a line on, every so many. -/
  | every (first step : Nat)
  /-- So many lines after the first one, as the second address. -/
  | after (n : Nat)

inductive ReplacementPart
  | text (t : Text)
  | group (n : Nat)

structure Substitution where
  expression : Regex
  parts : List ReplacementPart
  /-- The first match that is replaced. -/
  from_ : Nat
  isGlobal : Bool
  prints : Bool

inductive EditAction
  | opening (stop : Nat)
  | closing
  | substitute (s : Substitution)
  | transliterate (pairs : List (Char × Char))
  | delete
  | deleteFirst
  | print
  | printFirst
  | printNumber
  | list
  | next
  | nextAppend
  | quit (status : Nat) (prints : Bool)
  | append (t : Text)
  | insert (t : Text)
  | change (t : Text)
  | hold
  | holdAppend
  | get
  | getAppend
  | exchange
  | label (name : Text)
  | branch (name : Text)
  | branchIfChanged (name : Text)
  | branchIfUnchanged (name : Text)

structure EditCommand where
  first : Option LineAddress
  second : Option LineAddress
  isNegated : Bool
  action : EditAction

structure ScriptState where
  rest : Text
  commands : List EditCommand
  extended : Bool
  /-- The expression that was read last. -/
  latest : Option Regex

abbrev ScriptReader := StateT ScriptState (Except String)

namespace ScriptReader

def skipBlanks (alsoLines : Bool) : ScriptReader Unit := modify fun s =>
  { s with rest := s.rest.dropWhile fun c => c = ' ' || c = '\t' ||
      (alsoLines && (c = '\n' || c = ';')) }

/-- The text up to a sign, which a backslash takes the meaning of; the number bounds its length. -/
def readTo (stop : Char) (isExpression : Bool) : Nat → Bool → ScriptReader Text
  | 0, _ => throw "unterminated address regex"
  | n + 1, inBracket => do
    let s ← get
    match s.rest with
    | [] =>
      throw (if isExpression then "unterminated address regex" else "unterminated 's' command")
    | '\\' :: c :: rest =>
      set { s with rest }
      let t ← readTo stop isExpression n inBracket
      return if c = stop && !inBracket then c :: t else '\\' :: c :: t
    | c :: rest =>
      set { s with rest }
      if c = stop && !inBracket then return []
      else
        let inBracket := isExpression && (if inBracket then c ≠ ']' else c = '[')
        return c :: (← readTo stop isExpression n inBracket)

def readRegex (t : Text) (ignoresCase : Bool) : ScriptReader Regex := do
  let s ← get
  if t.isEmpty then
    match s.latest with
    | some r => return r
    | none => throw "no previous regular expression"
  match readExpression s.extended t with
  | .ok (r, _) =>
    let r := if ignoresCase then ignoreLetterCase r else r
    set { s with latest := some r }
    return r
  | .error message => throw message

def readNumber : ScriptReader (Option Nat) := do
  let s ← get
  let digits := s.rest.takeWhile Char.isDigit
  set { s with rest := s.rest.drop digits.length }
  return natural? digits

def readAddress (isSecond : Bool) : ScriptReader (Option LineAddress) := do
  let s ← get
  let expression (stop : Char) (rest : Text) : ScriptReader (Option LineAddress) := do
    set { s with rest }
    let t ← readTo stop true (rest.length + 1) false
    let s ← get
    let ignoresCase := s.rest.head? = some 'I'
    if ignoresCase then set { s with rest := s.rest.tail }
    return some (.expression (← readRegex t ignoresCase))
  match s.rest with
  | '$' :: rest =>
    set { s with rest }
    return some .last
  | '/' :: rest => expression '/' rest
  | '\\' :: c :: rest => expression c rest
  | '+' :: rest =>
    if isSecond then
      set { s with rest }
      return some (.after ((← readNumber).getD 0))
    else return none
  | _ =>
    match ← readNumber with
    | none => return none
    | some n =>
      match (← get).rest with
      | '~' :: rest =>
        modify fun s => { s with rest }
        return some (.every n ((← readNumber).getD 0))
      | _ => return some (.number n)

/-- The parts of a replacement; the number bounds its length. -/
def replacementParts : Nat → Text → List ReplacementPart
  | 0, _ | _, [] => []
  | n + 1, '&' :: rest => .group 0 :: replacementParts n rest
  | n + 1, '\\' :: c :: rest =>
    if c.isDigit then .group (c.toNat - '0'.toNat) :: replacementParts n rest
    else .text [if c = 'n' then '\n' else if c = 't' then '\t' else c] :: replacementParts n rest
  | n + 1, c :: rest => .text [c] :: replacementParts n rest

def readFlags : Nat → Substitution → Bool → ScriptReader (Substitution × Bool)
  | 0, s, ignoresCase => return (s, ignoresCase)
  | n + 1, s, ignoresCase => do
    let t ← get
    match t.rest with
    | c :: rest =>
      let take (s : Substitution) (ignoresCase : Bool) : ScriptReader (Substitution × Bool) := do
        set { t with rest }
        readFlags n s ignoresCase
      if c = 'g' then take { s with isGlobal := true } ignoresCase
      else if c = 'p' then take { s with prints := true } ignoresCase
      else if c = 'i' || c = 'I' then take s true
      else if c.isDigit then
        let from_ := (← readNumber).getD 1
        if from_ = 0 then throw "number option to 's' command may not be zero"
        readFlags n { s with from_ } ignoresCase
      else if c ∈ [' ', '\t', '\n', ';', '\x7d', '#'] then return (s, ignoresCase)
      else throw "unknown option to 's'"
    | [] => return (s, ignoresCase)

def readText : ScriptReader Text := do
  skipBlanks false
  let s ← get
  let rest := match s.rest with
    | '\\' :: '\n' :: rest => rest
    | '\\' :: rest => rest.dropWhile fun c => c = ' ' || c = '\t'
    | rest => rest
  if rest.isEmpty then throw "expected \\ after 'a', 'c' or 'i'"
  let rec go : Text → Text × Text
    | '\\' :: c :: rest =>
      let (t, after) := go rest
      (c :: t, after)
    | '\n' :: rest => ([], rest)
    | c :: rest =>
      let (t, after) := go rest
      (c :: t, after)
    | [] => ([], [])
  let (t, rest) := go rest
  set { s with rest }
  return t ++ ['\n']

def readLabel : ScriptReader Text := do
  skipBlanks false
  let s ← get
  let name := s.rest.takeWhile fun c => c ≠ '\n' && c ≠ ';'
  set { s with rest := s.rest.drop name.length }
  return (name.reverse.dropWhile isSpace).reverse

def readAction (c : Char) : ScriptReader EditAction := do
  let s ← get
  let bound := s.rest.length + 1
  match c with
  | '\x7b' => return .opening 0
  | '\x7d' => return .closing
  | 's' =>
    match s.rest with
    | [] => throw "unterminated 's' command"
    | stop :: rest =>
      set { s with rest }
      let t ← readTo stop true bound false
      let replacement ← readTo stop false bound false
      let start : Substitution :=
        ⟨.empty, replacementParts (replacement.length + 1) replacement, 1, false, false⟩
      let (found, ignoresCase) ← readFlags bound start false
      return .substitute { found with expression := ← readRegex t ignoresCase }
  | 'y' =>
    match s.rest with
    | [] => throw "unterminated 'y' command"
    | stop :: rest =>
      set { s with rest }
      let old := (unescape (← readTo stop false bound false)).1
      let new := (unescape (← readTo stop false bound false)).1
      if old.length ≠ new.length then throw "strings for 'y' command are different lengths"
      return .transliterate (old.zip new)
  | 'd' => return .delete
  | 'D' => return .deleteFirst
  | 'p' => return .print
  | 'P' => return .printFirst
  | '=' => return .printNumber
  | 'l' => return .list
  | 'n' => return .next
  | 'N' => return .nextAppend
  | 'q' =>
    skipBlanks false
    return .quit ((← readNumber).getD 0) true
  | 'Q' =>
    skipBlanks false
    return .quit ((← readNumber).getD 0) false
  | 'a' => return .append (← readText)
  | 'i' => return .insert (← readText)
  | 'c' => return .change (← readText)
  | 'h' => return .hold
  | 'H' => return .holdAppend
  | 'g' => return .get
  | 'G' => return .getAppend
  | 'x' => return .exchange
  | ':' => return .label (← readLabel)
  | 'b' => return .branch (← readLabel)
  | 't' => return .branchIfChanged (← readLabel)
  | 'T' => return .branchIfUnchanged (← readLabel)
  | c => throw ("unknown command: `" ++ String.ofList [c] ++ "'")

/-- Reads the commands of a script, the latest first; the number bounds their number. -/
def readCommands : Nat → ScriptReader Unit
  | 0 => pure ()
  | n + 1 => do
    skipBlanks true
    let s ← get
    match s.rest with
    | [] => pure ()
    | '#' :: rest =>
      set { s with rest := rest.dropWhile (· ≠ '\n') }
      readCommands n
    | _ =>
      let first ← readAddress false
      skipBlanks false
      let second ← match first, (← get).rest with
        | some _, ',' :: rest => do
          modify fun s => { s with rest }
          skipBlanks false
          match ← readAddress true with
          | some a => pure (some a)
          | none => throw "unexpected `,'"
        | _, _ => pure none
      skipBlanks false
      let isNegated := (← get).rest.head? = some '!'
      if isNegated then modify fun s => { s with rest := s.rest.tail }
      skipBlanks false
      let s ← get
      match s.rest with
      | [] => throw "missing command"
      | c :: rest =>
        set { s with rest }
        let action ← readAction c
        let ends := action matches .append _ || action matches .insert _ ||
          action matches .change _ || action matches .opening _
        if !ends then
          skipBlanks false
          match (← get).rest with
          | [] => pure ()
          | d :: _ =>
            if !(d ∈ ['\n', ';', '\x7d', '#']) then throw "extra characters after command"
        modify fun s => { s with commands := ⟨first, second, isNegated, action⟩ :: s.commands }
        readCommands n

end ScriptReader

/-- Where the closing brace is that belongs to an opening one. -/
def closingPlace (commands : List EditCommand) (place : Nat) : Option Nat :=
  let after := (commands.zipIdx.drop (place + 1))
  (after.foldl (fun (state : Nat × Option Nat) (c, index) =>
    if state.2.isSome then state
    else match c.action with
      | .opening _ => (state.1 + 1, none)
      | .closing => if state.1 = 0 then (0, some index) else (state.1 - 1, none)
      | _ => state) (0, none)).2

def readScript (extended : Bool) (t : Text) : Except String (List EditCommand) := do
  let ((), s) ← (ScriptReader.readCommands (t.length + 1)).run ⟨t, [], extended, none⟩
  let commands := s.commands.reverse
  let openings := commands.countP fun c => c.action matches .opening _
  let closings := commands.countP fun c => c.action matches .closing
  if openings < closings then .error "unexpected `\x7d'"
  commands.zipIdx.mapM fun (c, place) => match c.action with
    | .opening _ => match closingPlace commands place with
      | some stop => .ok { c with action := .opening stop }
      | none => .error "unmatched `\x7b'"
    | _ => .ok c

def Substitution.replacement (s : Substitution) (text : Array Char) (start : Nat)
    (t : Regex.Thread) : Text :=
  s.parts.flatMap fun
    | .text t => t
    | .group 0 => (text.extract start t.place).toList
    | .group n => match t.groups.lookup n with
      | some (start, stop) => (text.extract start stop).toList
      | none => []

/-- Replaces matches from a place on; the number bounds how many. What comes before is done
already. -/
def Substitution.replaceFrom (s : Substitution) (text : Array Char) :
    Nat → Nat → Nat → Option Nat → Text × Bool
  | 0, place, _, _ => ((text.extract place text.size).toList, false)
  | n + 1, place, count, lastEnd =>
    match findFrom s.expression text place with
    | none => ((text.extract place text.size).toList, false)
    | some (start, t) =>
      let before := (text.extract place start).toList
      let isEmpty : Bool := t.place = start
      let skipped := isEmpty && lastEnd = some start
      let replaces := !skipped && s.from_ ≤ count
      let now := if replaces then s.replacement text start t
        else (text.extract start t.place).toList
      let step := if isEmpty then (text.extract start (start + 1)).toList else []
      let next := if isEmpty then start + 1 else t.place
      if text.size < next || (replaces && !s.isGlobal) then
        let tail :=
          if replaces && !s.isGlobal then (text.extract t.place text.size).toList else step
        (before ++ now ++ tail, replaces)
      else
        let (rest, changed) := s.replaceFrom text n next (if skipped then count else count + 1)
          (if isEmpty then lastEnd else some t.place)
        (before ++ now ++ step ++ rest, replaces || changed)

/-- A line with its matches replaced, and whether there were any. -/
def Substitution.replaceAll (s : Substitution) (line : Text) : Text × Bool :=
  s.replaceFrom line.toArray (line.length + 2) 0 1 none

structure EditState where
  /-- Lines that were read ahead. -/
  ready : List Text
  /-- Whether more is to be read. -/
  isOpen : Bool
  line : Nat
  space : Text
  held : Text
  /-- What is written after the line. -/
  queue : List Text
  /-- Commands whose range of lines is under way, each with the line that ends it if that is
  known. -/
  ranges : List (Nat × Option Nat)
  changed : Bool
  /-- Whether the line in the space had an end. -/
  hasEnd : Bool

/-- Reads a line to its end; the number bounds its parts. -/
def readFullLine : Nat → Machine Text
  | 0 => return []
  | n + 1 => do
    match ← Machine.ask (.readLine 0) with
    | .error _ | .ok [] => return []
    | .ok t => if t.getLast? = some '\n' then return t else return t ++ (← readFullLine n)

abbrev Editor := StateT EditState Machine

namespace Editor

def prepare : Editor Unit := do
  let s ← get
  if s.ready.isEmpty && s.isOpen then
    match ← readFullLine Machine.bound with
    | [] => set { s with isOpen := false }
    | t => set { s with ready := [t] }

def isLast : Editor Bool := do
  prepare
  return (← get).ready.isEmpty

def nextLine? : Editor (Option Text) := do
  prepare
  let s ← get
  match s.ready with
  | [] => return none
  | t :: ready =>
    let hasEnd := t.getLast? = some '\n'
    set { s with ready, line := s.line + 1, hasEnd }
    return some (if hasEnd then t.dropLast else t)

def printSpace : Editor Unit := do
  let s ← get
  say (s.space ++ if s.hasEnd then ['\n'] else [])

def finishLine (quiet : Bool) : Editor Unit := do
  if !quiet then printSpace
  let s ← get
  for t in s.queue do say t
  set { s with queue := [] }

def matchesAddress : LineAddress → Editor Bool
  | .number n => return n = (← get).line
  | .last => isLast
  | .expression r => return r.occursIn (← get).space
  | .every first step => do
    let line := (← get).line
    return if step = 0 then line = first else first ≤ line && (line - first) % step = 0
  | .after _ => return false

/-- Whether a command is for the line, where it stands in the script. -/
def selects (place : Nat) (c : EditCommand) : Editor Bool := do
  match c.first, c.second with
  | none, _ => return true
  | some a, none => matchesAddress a
  | some a, some b =>
    let s ← get
    let drop : Editor Unit := modify fun s => { s with ranges := s.ranges.filter (·.1 ≠ place) }
    match s.ranges.lookup place with
    | some (some stop) =>
      if stop ≤ s.line then drop
      return s.line ≤ stop
    | some none =>
      if ← matchesAddress b then drop
      return true
    | none =>
      let begins ← match a with
        | .number 0 => pure (s.line = 1 : Bool)
        | a => matchesAddress a
      if !begins then return false
      let stop : Option Nat := match b with
        | .number n => some n
        | .after n => some (s.line + n)
        | _ => none
      let startsEarly := a matches .number 0
      match stop with
      | some stop =>
        if s.line < stop then modify fun s => { s with ranges := (place, some stop) :: s.ranges }
      | none =>
        let isOver ← if startsEarly then matchesAddress b else
          if b matches .last then isLast else pure false
        if !isOver then modify fun s => { s with ranges := (place, none) :: s.ranges }
      return true

inductive Verdict
  | nextLine
  | deleted
  /-- The script begins again without reading a line. -/
  | again
  | quit (status : Nat) (prints : Bool)
deriving DecidableEq

def labelPlace (commands : Array EditCommand) (name : Text) : Nat :=
  if name.isEmpty then commands.size
  else (commands.findIdx? fun c => match c.action with
    | .label other => other = name
    | _ => false).getD commands.size

def visible (t : Text) : Text := t.flatMap fun c =>
  if c = '\\' then ['\\', '\\']
  else if c = '\n' then ['\\', 'n']
  else if c = '\t' then ['\\', 't']
  else if ' ' ≤ c && c < '\x7f' then [c]
  else
    let digits := Nat.toDigits 8 c.toNat
    '\\' :: List.replicate (3 - digits.length) '0' ++ digits

/-- Runs the commands from a place on; the number bounds how many. -/
def runFrom (commands : Array EditCommand) (quiet : Bool) : Nat → Nat → Editor Verdict
  | 0, _ => return .nextLine
  | n + 1, place => do
    match commands[place]? with
    | none => return .nextLine
    | some c =>
      let chosen := (← selects place c) != c.isNegated
      let on : Editor Verdict := runFrom commands quiet n (place + 1)
      if !chosen then
        match c.action with
        | .opening stop => runFrom commands quiet n (stop + 1)
        | _ => on
      else match c.action with
        | .opening _ | .closing | .label _ => on
        | .substitute sub =>
          let s ← get
          let (space, changed) := sub.replaceAll s.space
          if changed then
            set { s with space, changed := true }
            if sub.prints then printSpace
          on
        | .transliterate pairs =>
          modify fun s => { s with space := s.space.map (translateChar pairs) }
          on
        | .delete => return .deleted
        | .deleteFirst =>
          let s ← get
          if s.space.contains '\n' then
            set { s with space := (s.space.dropWhile (· ≠ '\n')).tail }
            return .again
          else return .deleted
        | .print =>
          printSpace
          on
        | .printFirst =>
          sayLine ((← get).space.takeWhile (· ≠ '\n'))
          on
        | .printNumber =>
          sayLine (textOfNat (← get).line)
          on
        | .list =>
          sayLine (visible (← get).space ++ ['$'])
          on
        | .next =>
          if ← isLast then return .quit 0 true
          finishLine quiet
          if let some t ← nextLine? then modify fun s => { s with space := t }
          on
        | .nextAppend =>
          if ← isLast then return .quit 0 true
          if let some t ← nextLine? then
            modify fun s => { s with space := s.space ++ '\n' :: t }
          on
        | .quit status prints => return .quit status prints
        | .append t =>
          modify fun s => { s with queue := s.queue ++ [t] }
          on
        | .insert t =>
          say t
          on
        | .change t =>
          let isInside := c.second.isSome && !c.isNegated && ((← get).ranges.lookup place).isSome
          if !isInside then say t
          return .deleted
        | .hold =>
          modify fun s => { s with held := s.space }
          on
        | .holdAppend =>
          modify fun s => { s with held := s.held ++ '\n' :: s.space }
          on
        | .get =>
          modify fun s => { s with space := s.held }
          on
        | .getAppend =>
          modify fun s => { s with space := s.space ++ '\n' :: s.held }
          on
        | .exchange =>
          modify fun s => { s with space := s.held, held := s.space }
          on
        | .branch name => runFrom commands quiet n (labelPlace commands name)
        | .branchIfChanged name =>
          let s ← get
          set { s with changed := false }
          if s.changed then runFrom commands quiet n (labelPlace commands name) else on
        | .branchIfUnchanged name =>
          let s ← get
          set { s with changed := false }
          if s.changed then on else runFrom commands quiet n (labelPlace commands name)

/-- Goes through the lines; the number bounds how many. The status comes out. -/
def runLines (commands : Array EditCommand) (quiet : Bool) : Nat → Bool → Editor Nat
  | 0, _ => return 0
  | n + 1, reads => do
    if reads then
      match ← nextLine? with
      | none => return 0
      | some t => modify fun s => { s with space := t, changed := false }
    match ← runFrom commands quiet 1000000 0 with
    | .nextLine =>
      finishLine quiet
      runLines commands quiet n true
    | .deleted =>
      finishLine true
      runLines commands quiet n true
    | .again =>
      finishLine true
      runLines commands quiet n false
    | .quit status prints =>
      finishLine (quiet || !prints)
      return status

end Editor

def edit (words : List Text) : Machine Unit := do
  let a ← arguments "sed" 1 ⟨"nEre:f:suzi", [("quiet", 'n'), ("silent", 'n'),
    ("regexp-extended", 'E'), ("expression", 'e'), ("file", 'f'), ("separate", 's'),
    ("unbuffered", 'u'), ("in-place", 'i')]⟩
    true words
  let given := (a.options.filter (·.1 = 'e')).map Prod.snd
  let files ← readTexts "sed" ((a.options.filter (·.1 = 'f')).map Prod.snd)
  let (script, names) ← match given ++ files.map Prod.snd, a.operands with
    | [], script :: names => pure (script, names)
    | [], [] => do
      let usage := "Usage: sed [OPTION]... \x7bscript-only-if-no-other-script\x7d [input-file]...\n"
      Machine.put 2 usage.toList
      Machine.setStatus 1
      throw .ended
    | scripts, names => pure (['\n'].intercalate scripts, names)
  let quiet := a.has 'n' || script.take 3 = "#n\n".toList
  match readScript (a.has 'E' || a.has 'r') script with
  | .error message =>
    fail "sed" 1 (("-e expression #1, char " ++ toString script.length ++ ": " ++ message).toList)
  | .ok commands =>
    let start (ready : List Text) (isOpen : Bool) : EditState :=
      ⟨ready, isOpen, 0, [], [], [], [], false, true⟩
    if names.isEmpty || names = [['-']] then
      let (status, _) ←
        (Editor.runLines commands.toArray quiet Machine.bound true).run (start [] true)
      Machine.setStatus status
    else
      let mut texts : List (Text × Text) := []
      for name in names do
        match ← Machine.ask (.open 10 name .input) with
        | .error e =>
          Machine.put 2 ("sed: can't read ".toList ++ name ++ (": " ++ e.message ++ "\n").toList)
          Machine.setStatus 2
        | .ok () =>
          if let .ok t ← Machine.readAll 10 Machine.bound then texts := texts ++ [(name, t)]
          Machine.ask (.close 10)
      let failed := (← get).status
      let whole (name : Text) (ready : List Text) : Machine Nat := do
        if a.has 'i' then
          Machine.ask (.save [1])
          let _ ← Machine.ask (.open 1 name .output)
        let (status, _) ←
          (Editor.runLines commands.toArray quiet Machine.bound true).run (start ready false)
        if a.has 'i' then Machine.ask .restore
        return status
      if a.has 'i' || a.has 's' then
        for (name, t) in texts do
          let _ ← whole name (wholeLines t)
        Machine.setStatus failed
      else
        let status ← whole [] (texts.flatMap fun t => wholeLines t.2)
        Machine.setStatus (if status = 0 then failed else status)

end NodeDiscovery.Shell.Tool
