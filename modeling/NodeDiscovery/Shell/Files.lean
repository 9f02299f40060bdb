import NodeDiscovery.Shell.Text

/-! The files that command lines find, and those that they leave behind. -/
namespace NodeDiscovery.Shell

inductive Refusal
  | noEntry
  | notDirectory
  | isDirectory
  | denied
  | inUse
  | notEmpty
  | badDescriptor
  | brokenPipe
  | noProcess
  | noDevice
  | noSpace
  | tooManyLinks
  | invalid
deriving DecidableEq, Repr

def Refusal.message : Refusal → String
  | noEntry => "No such file or directory"
  | notDirectory => "Not a directory"
  | isDirectory => "Is a directory"
  | denied => "Permission denied"
  | inUse => "File exists"
  | notEmpty => "Directory not empty"
  | badDescriptor => "Bad file descriptor"
  | brokenPipe => "Broken pipe"
  | noProcess => "No such process"
  | noDevice => "No such device or address"
  | noSpace => "No space left on device"
  | tooManyLinks => "Too many levels of symbolic links"
  | invalid => "Invalid argument"

/-- The names on the way from the root to a file. -/
abbrev Path := List Text

def Path.text (p : Path) : Text :=
  if p.isEmpty then ['/'] else p.flatMap fun name => '/' :: name

/-- The names in the text of a path; empty ones are kept. -/
def namesOf (t : Text) : List Text := splitText '/' t

inductive Device
  | null
  | zero
  | full
  | terminal
  /-- Another name for what a descriptor leads to. -/
  | descriptor (n : Nat)
deriving DecidableEq, Repr

inductive Content
  | directory
  | regular (text : Text)
  /-- A program of the system. -/
  | program
  | device (d : Device)
  /-- Something that is written to and read elsewhere. -/
  | pipe
  | link (target : Text)
deriving DecidableEq, Repr

structure Node where
  content : Content
  /-- Who may do what, in nine bits. -/
  mode : Nat
  /-- When it was last changed. -/
  changed : Nat
deriving DecidableEq, Repr

abbrev Files := List (Path × Node)

namespace Files

def node? (files : Files) (p : Path) : Option Node := files.lookup p

def put (files : Files) (p : Path) (node : Node) : Files :=
  match files.node? p with
  | some _ => files.map fun file => if file.1 = p then (p, node) else file
  | none => (p, node) :: files

def remove (files : Files) (p : Path) : Files := files.filter fun file => file.1 ≠ p

/-- The names in a directory, in the order of their bytes. -/
def names (files : Files) (p : Path) : List Text :=
  (files.filterMap fun file =>
    if file.1.dropLast = p && !file.1.isEmpty then file.1.getLast? else none).mergeSort
      fun a b => !textLess b a

/-- Follows names from a directory on. Only the last one may be missing there. The number bounds the
links that are gone through. -/
def walk (files : Files) (follow : Bool) : Nat → Path → List Text → Except Refusal Path
  | 0, _, _ => .error .tooManyLinks
  | _, place, [] => .ok place
  | n + 1, place, name :: rest =>
    match files.node? place with
    | none => .error .noEntry
    | some node =>
      if node.content ≠ .directory then .error .notDirectory
      else if name.isEmpty || name = ['.'] then walk files follow n place rest
      else if name = ['.', '.'] then walk files follow n place.dropLast rest
      else
        let next := place ++ [name]
        match files.node? next with
        | some ⟨.link target, _, _⟩ =>
          if rest.isEmpty && !follow then .ok next
          else walk files follow n (if target.head? = some '/' then [] else place)
            (namesOf target ++ rest)
        | _ => walk files follow n next rest

/-- The place that a text names, seen from a directory. -/
def resolve (files : Files) (directory : Path) (t : Text) (follow : Bool) : Except Refusal Path :=
  if t.isEmpty then .error .noEntry
  else
    walk files follow (t.length + 1000) (if t.head? = some '/' then [] else directory) (namesOf t)

def find? (files : Files) (directory : Path) (t : Text) (follow : Bool) : Option (Path × Node) :=
  match files.resolve directory t follow with
  | .ok place => (files.node? place).map (place, ·)
  | .error _ => none

def pathOf (s : String) : Path := (namesOf s.toList).filter (· ≠ [])

def accounts : String :=
"root:x:0:0:root:/root:/bin/bash
daemon:x:1:1:daemon:/usr/sbin:/usr/sbin/nologin
bin:x:2:2:bin:/bin:/usr/sbin/nologin
sys:x:3:3:sys:/dev:/usr/sbin/nologin
sync:x:4:65534:sync:/bin:/bin/sync
games:x:5:60:games:/usr/games:/usr/sbin/nologin
man:x:6:12:man:/var/cache/man:/usr/sbin/nologin
lp:x:7:7:lp:/var/spool/lpd:/usr/sbin/nologin
mail:x:8:8:mail:/var/mail:/usr/sbin/nologin
news:x:9:9:news:/var/spool/news:/usr/sbin/nologin
uucp:x:10:10:uucp:/var/spool/uucp:/usr/sbin/nologin
proxy:x:13:13:proxy:/bin:/usr/sbin/nologin
www-data:x:33:33:www-data:/var/www:/usr/sbin/nologin
backup:x:34:34:backup:/var/backups:/usr/sbin/nologin
list:x:38:38:Mailing List Manager:/var/list:/usr/sbin/nologin
irc:x:39:39:ircd:/run/ircd:/usr/sbin/nologin
_apt:x:42:65534::/nonexistent:/usr/sbin/nologin
nobody:x:65534:65534:nobody:/nonexistent:/usr/sbin/nologin
"

def groups : String :=
"root:x:0:
daemon:x:1:
bin:x:2:
sys:x:3:
adm:x:4:
tty:x:5:
disk:x:6:
nogroup:x:65534:
"

/-- The files of a common machine, with programs of some names. -/
def standard (programs : List String) : Files :=
  let directory (s : String) : Path × Node := (pathOf s, ⟨.directory, 0o755, 0⟩)
  let link (s target : String) : Path × Node := (pathOf s, ⟨.link target.toList, 0o777, 0⟩)
  let device (s : String) (d : Device) : Path × Node := (pathOf s, ⟨.device d, 0o666, 0⟩)
  let regular (s content : String) : Path × Node := (pathOf s, ⟨.regular content.toList, 0o644, 0⟩)
  [device "/dev/null" .null, directory "/", directory "/dev", directory "/tmp", directory "/etc",
    directory "/usr", directory "/usr/bin", link "/bin" "usr/bin", directory "/work",
    device "/dev/stdin" (.descriptor 0), device "/dev/stdout" (.descriptor 1),
    device "/dev/stderr" (.descriptor 2), device "/dev/zero" .zero, device "/dev/full" .full,
    device "/dev/tty" .terminal, directory "/dev/fd", directory "/dev/shm", directory "/boot",
    directory "/home", directory "/media", directory "/mnt", directory "/opt", directory "/proc",
    directory "/root", directory "/run", directory "/srv", directory "/sys", directory "/var",
    directory "/var/cache", directory "/var/lib", directory "/var/log", directory "/var/tmp",
    directory "/usr/sbin", directory "/usr/lib", directory "/usr/local", directory "/usr/share",
    directory "/usr/local/bin", directory "/usr/local/sbin", link "/sbin" "usr/sbin",
    link "/lib" "usr/lib", regular "/etc/passwd" accounts, regular "/etc/group" groups,
    regular "/etc/hosts" "127.0.0.1\tlocalhost\n", regular "/etc/hostname" "localhost\n"] ++
  ((List.range 10).map fun n => device ("/dev/fd/" ++ toString n) (.descriptor n)) ++
  programs.map fun name => (pathOf "/usr/bin" ++ [name.toList], ⟨.program, 0o755, 0⟩)

end Files
end NodeDiscovery.Shell
