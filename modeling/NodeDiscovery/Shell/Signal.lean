/-! Signals: their numbers and names, and what they do to a program that makes no provision for
them. -/
namespace NodeDiscovery.Shell

/-- The signals up to 31, each with its name and its description. -/
def signals : List (Nat × String × String) :=
  [(1, "HUP", "Hangup"), (2, "INT", "Interrupt"), (3, "QUIT", "Quit"),
    (4, "ILL", "Illegal instruction"), (5, "TRAP", "Trace/breakpoint trap"),
    (6, "ABRT", "Aborted"), (7, "BUS", "Bus error"), (8, "FPE", "Floating point exception"),
    (9, "KILL", "Killed"), (10, "USR1", "User defined signal 1"),
    (11, "SEGV", "Segmentation fault"), (12, "USR2", "User defined signal 2"),
    (13, "PIPE", "Broken pipe"), (14, "ALRM", "Alarm clock"), (15, "TERM", "Terminated"),
    (16, "STKFLT", "Stack fault"), (17, "CHLD", "Child exited"), (18, "CONT", "Continued"),
    (19, "STOP", "Stopped (signal)"), (20, "TSTP", "Stopped"), (21, "TTIN", "Stopped (tty input)"),
    (22, "TTOU", "Stopped (tty output)"), (23, "URG", "Urgent I/O condition"),
    (24, "XCPU", "CPU time limit exceeded"), (25, "XFSZ", "File size limit exceeded"),
    (26, "VTALRM", "Virtual timer expired"), (27, "PROF", "Profiling timer expired"),
    (28, "WINCH", "Window changed"), (29, "IO", "I/O possible"), (30, "PWR", "Power failure"),
    (31, "SYS", "Bad system call")]

namespace Signal

def bound : Nat := 65

/-- The name of a signal; zero stands for the end of a shell. Those without a name of their own are
counted from both ends of the last range. -/
def name (signal : Nat) : String :=
  if signal = 0 then "EXIT"
  else match signals.lookup signal with
    | some (name, _) => name
    | none =>
      if signal < 34 then toString signal
      else if signal = 34 then "RTMIN"
      else if signal < 50 then "RTMIN+" ++ toString (signal - 34)
      else if signal < 64 then "RTMAX-" ++ toString (64 - signal)
      else "RTMAX"

def description (signal : Nat) : String :=
  match signals.lookup signal with
  | some (_, description) => description
  | none =>
    if signal < 34 then "Unknown signal " ++ toString signal
    else "Real-time signal " ++ toString (signal - 34)

/-- The signal of a name in letters of either case, from some number on. -/
def ofName? (least : Nat) (name : String) : Option Nat :=
  let name := name.map Char.toUpper
  (List.range bound).find? fun n => least ≤ n && Signal.name n == name

inductive Effect
  | nothing
  | stop
  | continue
  | kill
deriving DecidableEq, Repr

def effect (signal : Nat) : Effect :=
  if signal ∈ [0, 17, 23, 28] then .nothing
  else if signal ∈ [19, 20, 21, 22] then .stop
  else if signal = 18 then .continue
  else .kill

/-- Whether a program may decide what the signal does to it. -/
def isFree (signal : Nat) : Bool := signal ≠ 9 && signal ≠ 19

end Signal
end NodeDiscovery.Shell
