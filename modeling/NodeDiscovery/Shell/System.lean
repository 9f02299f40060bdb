import NodeDiscovery.Shell.Task

/-! A system that runs programs in turns: their files and pipes, the signals between them, and time,
which goes on while all of them wait. -/
namespace NodeDiscovery.Shell

inductive Target
  | null
  | zero
  | full
  /-- To outside of the system; the first of these is read there. -/
  | sink (n : Nat)
  | pipe (n : Nat)
  | file (place : Path)
  | directory
deriving DecidableEq, Repr

structure OpenFile where
  target : Target
  offset : Nat
  reads : Bool
  writes : Bool
  appends : Bool
deriving DecidableEq, Repr

/-- What was written to a pipe and not read yet: the beginning, and after it what came later, the
latest first. -/
structure Pipe where
  front : Text
  back : List Text
  size : Nat
deriving DecidableEq, Repr

namespace Pipe

def empty : Pipe := ⟨[], [], 0⟩

def capacity : Nat := 65536

def write (p : Pipe) (t : Text) : Pipe :=
  { p with back := t :: p.back, size := p.size + t.length }

def gathered (p : Pipe) : Pipe :=
  if p.back.isEmpty then p else ⟨p.front ++ p.back.reverse.flatten, [], p.size⟩

def take (p : Pipe) (n : Nat) : Text × Pipe :=
  let t := p.front.take n
  (t, { p with front := p.front.drop n, size := p.size - t.length })

end Pipe

structure Process where
  number : Nat
  parent : Nat
  /-- What its descriptors lead to, by the numbers of open files. -/
  descriptors : List (Nat × Nat)
  /-- What some of them led to before, the latest first. -/
  saved : List (List (Nat × Option Nat))
  directory : Path
  mask : Nat
  dispositions : List (Nat × Disposition)
  /-- Signals to be told of. -/
  pending : List Nat
  /-- When its sleep ends. -/
  wakes : Option Nat
  isStopped : Bool
  ending : Option Ending
  task : Task

namespace Process

def disposition (p : Process) (signal : Nat) : Disposition :=
  (p.dispositions.lookup signal).getD .usual

def receive (p : Process) (signal : Nat) : Process :=
  match if Signal.isFree signal then p.disposition signal else .usual with
  | .ignored => p
  | .reported => if signal ∈ p.pending then p else { p with pending := signal :: p.pending }
  | .usual =>
    match Signal.effect signal with
    | .nothing => p
    | .stop => { p with isStopped := true }
    | .continue => { p with isStopped := false }
    | .kill => { p with ending := some (.killed signal) }

def holds (p : Process) (file : Nat) : Bool :=
  p.descriptors.any (·.2 = file) || p.saved.any fun group => group.any (·.2 = some file)

def held (p : Process) : List Nat :=
  p.descriptors.map Prod.snd ++ p.saved.flatten.filterMap Prod.snd

end Process

structure System where
  files : Files
  /-- The open files that some process keeps. -/
  opened : List (Nat × OpenFile)
  pipes : List (Nat × Pipe)
  /-- What was written to the first sink, the latest first. -/
  output : List Text
  /-- Nanoseconds. -/
  clock : Nat
  /-- How much was asked of it. -/
  steps : Nat
  /-- A number that nothing has yet. -/
  fresh : Nat
  /-- The processes, in the order of their turns. -/
  processes : List Process
  /-- Ended processes nobody has asked for, each with its parent. -/
  ended : List (Nat × Nat × Ending)

namespace System

/-- Forgets an open file that no process keeps any more, and a pipe without ends. -/
def release (s : System) (p : Process) (file : Nat) : System :=
  if p.holds file || s.processes.any (·.holds file) then s
  else
    let opened := s.opened.filter (·.1 ≠ file)
    match s.opened.lookup file with
    | some ⟨.pipe n, _, _, _, _⟩ =>
      if opened.any fun o => o.2.target = .pipe n then { s with opened }
      else { s with opened, pipes := s.pipes.filter (·.1 ≠ n) }
    | _ => { s with opened }

/-- Lets a descriptor lead to an open file, or to nothing. -/
def point (s : System) (p : Process) (descriptor : Nat) (file : Option Nat) : System × Process :=
  let old := p.descriptors.lookup descriptor
  let others := p.descriptors.filter (·.1 ≠ descriptor)
  let p := { p with descriptors := match file with
    | some file => (descriptor, file) :: others
    | none => others }
  match old with
  | some old => (s.release p old, p)
  | none => (s, p)

def addOpen (s : System) (o : OpenFile) : System × Nat :=
  ({ s with opened := (s.fresh, o) :: s.opened, fresh := s.fresh + 1 }, s.fresh)

def openFile? (s : System) (p : Process) (descriptor : Nat) : Option (Nat × OpenFile) :=
  (p.descriptors.lookup descriptor).bind fun n => (s.opened.lookup n).map (n, ·)

def setOffset (s : System) (file offset : Nat) : System :=
  { s with opened := s.opened.map fun o =>
      if o.1 = file then (file, { o.2 with offset }) else o }

def setPipe (s : System) (n : Nat) (pipe : Pipe) : System :=
  { s with pipes := s.pipes.map fun q => if q.1 = n then (n, pipe) else q }

/-- Adds a file of a kind, with the permissions that the process does not mask. -/
def create (s : System) (p : Process) (place : Path) (content : Content) (mode : Nat) : System :=
  { s with files := s.files.put place ⟨content, mode - (mode &&& p.mask), s.clock⟩ }

def openAt (s : System) (p : Process) (descriptor : Nat) (place : Path) (how : Opening) :
    Except Refusal (System × Process) :=
  let lead (s : System) (target : Target) : Except Refusal (System × Process) :=
    let (s, n) := s.addOpen ⟨target, 0, how.reads, how.writes, how.appends⟩
    .ok (s.point p descriptor (some n))
  match s.files.node? place with
  | none =>
    if how.creates then lead (s.create p place (.regular []) 0o666) (.file place)
    else .error .noEntry
  | some node =>
    match node.content with
    | .directory => if how.writes then .error .isDirectory else lead s .directory
    | .regular _ =>
      if how.exclusive then .error .inUse
      else if how.truncates then
        lead { s with files := s.files.put place ⟨.regular [], node.mode, s.clock⟩ } (.file place)
      else lead s (.file place)
    | .program => if how.writes then .error .denied else lead s .null
    | .device .null => lead s .null
    | .device .zero => lead s .zero
    | .device .full => lead s .full
    | .device .terminal => .error .noDevice
    | .device (.descriptor n) =>
      match p.descriptors.lookup n with
      | some file => .ok (s.point p descriptor (some file))
      | none => .error .noEntry
    | .pipe => .error .noDevice
    | .link _ => .error .tooManyLinks

/-- Text to be read, if there is some or will be none; `cut` says how much of it to take. -/
def readWith (s : System) (p : Process) (descriptor : Nat) (cut : Text → Nat) :
    Option (System × Except Refusal Text) :=
  match s.openFile? p descriptor with
  | none => some (s, .error .badDescriptor)
  | some (n, o) =>
    if !o.reads then some (s, .error .badDescriptor)
    else match o.target with
      | .null => some (s, .ok [])
      | .zero | .full =>
        let t := List.replicate 4096 '\x00'
        some (s, .ok (t.take (cut t)))
      | .sink _ => some (s, .error .badDescriptor)
      | .directory => some (s, .error .isDirectory)
      | .file place =>
        match s.files.node? place with
        | some ⟨.regular t, _, _⟩ =>
          let t := t.drop o.offset
          let t := t.take (cut t)
          some (s.setOffset n (o.offset + t.length), .ok t)
        | _ => some (s, .ok [])
      | .pipe n =>
        let pipe := ((s.pipes.lookup n).getD .empty).gathered
        if pipe.front.isEmpty then
          if s.opened.any fun o => o.2.target = .pipe n && o.2.writes then none
          else some (s, .ok [])
        else
          let (t, pipe) := pipe.take (cut pipe.front)
          some (s.setPipe n pipe, .ok t)

def lineLength (t : Text) : Nat :=
  let line := t.takeWhile (· ≠ '\n')
  line.length + 1

/-- Writes to an open file, if there is room. Writing what nobody can read any more is a fault. -/
def writeTo (s : System) (p : Process) (file : Option Nat) (t : Text) :
    Option (System × Process × Except Refusal Unit) :=
  match file.bind fun n => (s.opened.lookup n).map (n, ·) with
  | none => some (s, p, .error .badDescriptor)
  | some (n, o) =>
    if !o.writes then some (s, p, .error .badDescriptor)
    else match o.target with
      | .null | .zero => some (s, p, .ok ())
      | .full => some (s, p, if t.isEmpty then .ok () else .error .noSpace)
      | .sink k => some (if k = 0 then { s with output := t :: s.output } else s, p, .ok ())
      | .directory => some (s, p, .error .badDescriptor)
      | .file place =>
        match s.files.node? place with
        | some ⟨.regular old, mode, _⟩ =>
          let offset := if o.appends then old.length else o.offset
          let gap := List.replicate (offset - old.length) '\x00'
          let new := old.take offset ++ gap ++ t ++ old.drop (offset + t.length)
          let s := { s with files := s.files.put place ⟨.regular new, mode, s.clock⟩ }
          some (s.setOffset n (offset + t.length), p, .ok ())
        | _ => some (s, p, .ok ())
      | .pipe k =>
        if s.opened.any fun o => o.2.target = .pipe k && o.2.reads then
          let pipe := (s.pipes.lookup k).getD .empty
          if pipe.size < Pipe.capacity then some (s.setPipe k (pipe.write t), p, .ok ())
          else none
        else some (s, p.receive 13, .error .brokenPipe)

/-- Lets go of all that a process keeps, and remembers how it ended. -/
def finish (s : System) (p q : Process) (e : Ending) : System × Process :=
  let rest := { s with processes := s.processes.filter (·.number ≠ q.number) }
  let ghost := { q with descriptors := [], saved := [] }
  let s := q.held.foldl (fun s file => if p.number ≠ q.number && p.holds file then s
    else s.release ghost file) rest
  let s := { s with ended := (q.number, q.parent, e) :: s.ended }
  let tell (r : Process) : Process :=
    if r.number = q.parent && r.disposition 17 = .reported then r.receive 17 else r
  ({ s with processes := s.processes.map tell }, tell p)

/-- Sends a signal to a process, which may be the one that sends it. -/
def signal (s : System) (p : Process) (target signal : Nat) : System × Process × Bool :=
  let found := target = p.number || s.processes.any (·.number = target) ||
    s.ended.any (·.1 = target)
  let hit (q : Process) : Process := if q.number = target then q.receive signal else q
  let p := hit p
  let s := { s with processes := s.processes.map hit }
  let (s, p) := (s.processes.filter (·.ending.isSome)).foldl (fun (s, p) q =>
    s.finish p q (q.ending.getD (.killed signal))) (s, p)
  (s, p, found)

def changeFiles (s : System) (p : Process) (t : Text) (follow : Bool)
    (change : Path → Option Node → Except Refusal Files) : System × Except Refusal Unit :=
  match s.files.resolve p.directory t follow with
  | .error e => (s, .error e)
  | .ok place =>
    match change place (s.files.node? place) with
    | .error e => (s, .error e)
    | .ok files => ({ s with files }, .ok ())

def behind? (s : System) (p : Process) (descriptor : Nat) : Option Look := do
  let (_, o) ← s.openFile? p descriptor
  let device (name : String) : Option Look :=
    let place := Files.pathOf name
    (s.files.node? place).map (⟨place, ·⟩)
  match o.target with
  | .null => device "/dev/null"
  | .zero => device "/dev/zero"
  | .full => device "/dev/full"
  | .sink _ | .pipe _ => return ⟨[], ⟨.pipe, 0o600, s.clock⟩⟩
  | .file place => (s.files.node? place).map (⟨place, ·⟩)
  | .directory => return ⟨[], ⟨.directory, 0o755, 0⟩⟩

def look? (s : System) (p : Process) (t : Text) (follow : Bool) : Option Look := do
  let (place, node) ← s.files.find? p.directory t follow
  match node.content with
  | .device (.descriptor n) =>
    if follow then s.behind? p n
    else return ⟨place, ⟨.link ("/proc/self/fd/" ++ toString n).toList, 0o777, 0⟩⟩
  | _ => return ⟨place, node⟩

/-- Answers what a process asks, if it can be answered now. -/
def serve (s : System) (p : Process) : (r : Request) → Option (System × Process × r.Reply)
  | .step => some (s, { p with pending := [] }, p.pending)
  | .fork => some (s, p, 0)
  | .become =>
    let kept := p.dispositions.filter fun d => d.2 ≠ .reported
    let q := { p with dispositions := kept, saved := [], pending := [] }
    some ((p.saved.flatten.filterMap Prod.snd).foldl (fun s file => s.release q file) s, q, ())
  | .identify => some (s, p, ⟨p.number, p.parent⟩)
  | .clock => some (s, p, s.clock)
  | .sleep n =>
    match p.wakes with
    | some t => if t ≤ s.clock then some (s, { p with wakes := none }, ()) else none
    | none => if n = 0 then some (s, p, ()) else none
  | .wait process interruptible =>
    match s.ended.find? fun e => e.1 = process && e.2.1 = p.number with
    | some (_, _, e) =>
      some ({ s with ended := s.ended.filter (·.1 ≠ process) }, p, .ended e)
    | none =>
      if !s.processes.any fun q => q.number = process && q.parent = p.number then
        some (s, p, .noChild)
      else if interruptible && !p.pending.isEmpty then some (s, p, .interrupted)
      else none
  | .poll process =>
    match s.ended.find? fun e => e.1 = process && e.2.1 = p.number with
    | some (_, _, e) =>
      some ({ s with ended := s.ended.filter (·.1 ≠ process) }, p, some e)
    | none => some (s, p, none)
  | .kill process signal =>
    let (s, p, found) := s.signal p process signal
    some (s, p, found)
  | .handle signal d =>
    let others := p.dispositions.filter (·.1 ≠ signal)
    some (s, { p with dispositions := (signal, d) :: others }, ())
  | .disposition signal => some (s, p, p.disposition signal)
  | .open descriptor path how =>
    match s.files.resolve p.directory path true with
    | .error e => some (s, p, .error e)
    | .ok place =>
      match s.openAt p descriptor place how with
      | .error e => some (s, p, .error e)
      | .ok (s, p) => some (s, p, .ok ())
  | .duplicate source target =>
    match p.descriptors.lookup source with
    | none => some (s, p, .error .badDescriptor)
    | some file =>
      let (s, p) := s.point p target (some file)
      some (s, p, .ok ())
  | .close descriptor =>
    let (s, p) := s.point p descriptor none
    some (s, p, ())
  | .pipe =>
    let n := s.fresh
    let s := { s with pipes := (n, .empty) :: s.pipes, fresh := n + 1 }
    let (s, input) := s.addOpen ⟨.pipe n, 0, true, false, false⟩
    let (s, output) := s.addOpen ⟨.pipe n, 0, false, true, false⟩
    let (s, p) := s.point p (10 + input) (some input)
    let (s, p) := s.point p (10 + output) (some output)
    some (s, p, (10 + input, 10 + output))
  | .save descriptors =>
    let group := descriptors.map fun d => (d, p.descriptors.lookup d)
    some (s, { p with saved := group :: p.saved }, ())
  | .restore =>
    match p.saved with
    | [] => some (s, p, ())
    | group :: saved =>
      let (s, p) := group.foldl (fun (s, p) (d, file) => point s p d file) (s, p)
      let p := { p with saved }
      some (group.foldl (fun s e => match e.2 with
        | some file => s.release p file
        | none => s) s, p, ())
  | .forget =>
    match p.saved with
    | [] => some (s, p, ())
    | group :: saved =>
      let p := { p with saved }
      some (group.foldl (fun s e => match e.2 with
        | some file => s.release p file
        | none => s) s, p, ())
  | .read descriptor most =>
    (s.readWith p descriptor fun t => most.getD t.length).map fun (s, t) => (s, p, t)
  | .readLine descriptor =>
    (s.readWith p descriptor lineLength).map fun (s, t) => (s, p, t)
  | .write descriptor t => s.writeTo p (p.descriptors.lookup descriptor) t
  | .writeBehind descriptor t =>
    let file := ((p.saved.head?.getD []).lookup descriptor).getD (p.descriptors.lookup descriptor)
    s.writeTo p file t
  | .unread descriptor t =>
    match s.openFile? p descriptor with
    | some (n, o) =>
      match o.target with
      | .file _ => some (s.setOffset n (o.offset - t.length), p, ())
      | _ => some (s, p, ())
    | none => some (s, p, ())
  | .look path follow => some (s, p, s.look? p path follow)
  | .list path =>
    match s.files.resolve p.directory path true with
    | .error e => some (s, p, .error e)
    | .ok place =>
      match s.files.node? place with
      | none => some (s, p, .error .noEntry)
      | some node =>
        if node.content = .directory then some (s, p, .ok (s.files.names place))
        else some (s, p, .error .notDirectory)
  | .directory => some (s, p, p.directory)
  | .changeDirectory path =>
    match s.files.resolve p.directory path true with
    | .error e => some (s, p, .error e)
    | .ok place =>
      match s.files.node? place with
      | none => some (s, p, .error .noEntry)
      | some node =>
        if node.content = .directory then some (s, { p with directory := place }, .ok ())
        else some (s, p, .error .notDirectory)
  | .makeDirectory path =>
    match s.files.resolve p.directory path true with
    | .error e => some (s, p, .error e)
    | .ok place =>
      match s.files.node? place with
      | some _ => some (s, p, .error .inUse)
      | none => some (s.create p place .directory 0o777, p, .ok ())
  | .makeLink target path =>
    match s.files.resolve p.directory path false with
    | .error e => some (s, p, .error e)
    | .ok place =>
      match s.files.node? place with
      | some _ => some (s, p, .error .inUse)
      | none => some (s.create { p with mask := 0 } place (.link target) 0o777, p, .ok ())
  | .remove path =>
    let (s, e) := s.changeFiles p path false fun place node =>
      match node with
      | none => .error .noEntry
      | some node =>
        if node.content = .directory then .error .isDirectory else .ok (s.files.remove place)
    some (s, p, e)
  | .removeDirectory path =>
    let (s, e) := s.changeFiles p path false fun place node =>
      match node with
      | none => .error .noEntry
      | some node =>
        if node.content ≠ .directory then .error .notDirectory
        else if (s.files.names place).isEmpty then .ok (s.files.remove place)
        else .error .notEmpty
    some (s, p, e)
  | .rename source target =>
    let (s, e) := s.changeFiles p source false fun place node =>
      match node, s.files.resolve p.directory target false with
      | none, _ => .error .noEntry
      | _, .error e => .error e
      | some _, .ok goal =>
        .ok (s.files.filterMap fun (path, node) =>
          if place.isPrefixOf path then some (goal ++ path.drop place.length, node)
          else if goal.isPrefixOf path then none
          else some (path, node))
    some (s, p, e)
  | .setMode path mode =>
    let (s, e) := s.changeFiles p path true fun place node =>
      match node with
      | none => .error .noEntry
      | some node => .ok (s.files.put place { node with mode })
    some (s, p, e)
  | .touch path =>
    let (s, e) := s.changeFiles p path true fun place node =>
      match node with
      | none => .ok (s.files.put place ⟨.regular [], 0o666 - (0o666 &&& p.mask), s.clock⟩)
      | some node => .ok (s.files.put place { node with changed := s.clock })
    some (s, p, e)
  | .mask new => some (s, { p with mask := new.getD p.mask }, p.mask)

structure Turn where
  system : System
  process : Process
  ending : Option Ending
  /-- Whether anything was answered. -/
  moved : Bool

def stepTime : Nat := 1000

def effort : (r : Request) → r.Reply → Nat
  | .write _ t, _ => 1 + t.length / 16
  | .read _ _, .ok t => 1 + t.length / 16
  | .readLine _, .ok t => 1 + t.length / 16
  | _, _ => 1

/-- Runs a process until it has to wait, ends, or has had its share. -/
def runProcess : Nat → Bool → System → Process → Turn
  | 0, _, s, p => ⟨s, p, none, true⟩
  | n + 1, moved, s, p =>
    match p.task with
    | .done status => ⟨s, p, some (.exited (status % 256)), true⟩
    | .call .fork k =>
      let child := { p with number := s.fresh, parent := p.number, pending := [], task := k 0 }
      let s := { s with
        processes := s.processes ++ [child]
        fresh := s.fresh + 1
        clock := s.clock + stepTime
        steps := s.steps + 1 }
      runProcess n true s { p with task := k child.number }
    | .call r k =>
      match s.serve p r with
      | some (s, p, reply) =>
        let s := { s with clock := s.clock + stepTime, steps := s.steps + effort r reply }
        match p.ending with
        | some e => ⟨s, p, some e, true⟩
        | none =>
          let p := { p with task := k reply }
          if p.isStopped then ⟨s, p, none, true⟩ else runProcess n true s p
      | none =>
        match r, p.wakes with
        | .sleep time, none => ⟨s, { p with wakes := some (s.clock + time) }, none, true⟩
        | _, _ => ⟨s, p, none, moved⟩

def share : Nat := 256

/-- Lets the first of some processes run that does not wait; it is the last one after that. -/
def turn : Nat → System → System × Bool
  | 0, s => (s, false)
  | n + 1, s =>
    match s.processes with
    | [] => (s, false)
    | p :: others =>
      if p.isStopped then turn n { s with processes := others ++ [p] }
      else
        let t := runProcess share false { s with processes := others } p
        let s := match t.ending with
          | some e => (t.system.finish t.process t.process e).1
          | none => { t.system with processes := t.system.processes ++ [t.process] }
        if t.moved then (s, true) else turn n s

def nextWake? (s : System) : Option Nat :=
  (s.processes.filterMap fun p => if p.isStopped then none else p.wakes).min?

def first : Nat := 100

/-- How that process ended, once nobody can write to the outside any more. -/
def ending? (s : System) : Option Ending :=
  if s.opened.any fun o => o.2.target matches .sink _ then none
  else (s.ended.find? (·.1 = first)).map fun e => e.2.2

/-- A system that has more work than this is given up. -/
def maxSteps : Nat := 1000000

/-- Gives turns until all is over, or some time is; the number bounds how many. -/
def run (limit : Nat) : Nat → System → Option Outcome
  | 0, _ => none
  | n + 1, s =>
    match s.ending? with
    | some e => some ⟨e, bytesOfText s.output.reverse.flatten, s.clock⟩
    | none =>
      if maxSteps < s.steps || limit < s.clock then none
      else
        let (s, moved) := s.turn s.processes.length
        if moved then run limit n s
        else match s.nextWake? with
          | some t => run limit n { s with clock := max s.clock t }
          | none => none

/-- A system with one process, which reads nothing and writes to the outside. -/
def start (files : Files) (directory : Path) (task : Task) : System where
  files
  opened := [(1, ⟨.sink 0, 0, false, true, false⟩), (2, ⟨.sink 1, 0, false, true, false⟩),
    (0, ⟨.null, 0, true, false, false⟩)]
  pipes := []
  output := []
  clock := 0
  steps := 0
  fresh := first + 1
  processes := [{
    number := first
    parent := first - 1
    descriptors := [(1, 1), (2, 2), (0, 0)]
    saved := []
    directory
    mask := 0o022
    dispositions := []
    pending := []
    wakes := none
    isStopped := false
    ending := none
    task }]
  ended := []

end System
end NodeDiscovery.Shell
