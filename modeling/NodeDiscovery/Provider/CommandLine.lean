import NodeDiscovery.Provider.Basic
import NodeDiscovery.Provider.Options
import NodeDiscovery.Text.Lines
import NodeDiscovery.Text.Quoted
import NodeDiscovery.Text.Utf8

/-! Addresses that a command line writes, one on each line. -/
namespace NodeDiscovery.CommandLine

def providerName : String := "cmd"

def target : String := "discover-cmd"

def defaultTimeout : Duration := .ofSeconds 5

/-- A number of seconds. -/
def readTimeout (s : String) : Except String Duration :=
  match Text.readNumeral UInt64.size s.toList with
  | .ok n => .ok (.ofSeconds n)
  | .error fault => .error fault.message

/-- The addresses in an output: its nonblank lines. -/
def addresses (output : List UInt8) : List String :=
  (Text.trimmedLines (Text.Utf8.decode output)).map String.ofList

/-- What a command line writes if it ends well before the timeout. -/
def output (timeout : Duration) : Option Shell.Outcome → Except ProviderError (List UInt8)
  | none => .error (timedOut timeout)
  | some outcome =>
    if timeout.nanoseconds ≤ outcome.elapsed then .error (timedOut timeout)
    else if outcome.ending.isSuccess then .ok outcome.output
    else .error (.requestFailed ("execute cmd error: " ++ outcome.ending.text))
where
  timedOut (timeout : Duration) : ProviderError :=
    .requestFailed ("command timed out after " ++ timeout.text)

/-- Why a shell cannot be started with a command line: no argument holds a null byte, or has more
bytes than these. -/
def refusal? (line : String) : Option String :=
  if line.toList.contains '\x00' then some "nul byte found in provided data"
  else if 131072 ≤ line.utf8ByteSize then some "Argument list too long (os error 7)"
  else none

/-- Runs a command line in a shell. -/
def runLine (world : World) (line : String) (timeout : Duration) :
    Except ProviderError (List UInt8) :=
  match refusal? line with
  | some reason => .error (.requestFailed ("execute cmd error: " ++ reason))
  | none => output timeout (world.shell line timeout)

def find (_ : Option String) (world : World) (c : Config) :
    Call ProviderError (List String) := do
  Call.ofExcept (c.expectProvider providerName)
  let line ← Call.ofExcept (c.required "cmdline")
  let timeout ← Call.ofExcept (c.parsed "timeout" readTimeout defaultTimeout)
  Call.log .debug target
    ("Running " ++ Text.quoted line ++ " with timeout " ++ timeout.text)
  Call.emit (.command line timeout)
  let output ← Call.ofExcept (runLine world line timeout)
  let addresses := addresses output
  Call.log .debug target ("Found ip addresses: " ++ Text.quotedList addresses)
  return addresses

def help : String :=
"cmd:

    provider: \"cmd\"
    cmdline:  The command line to execute to discover nodes.
    timeout:  Timeout to wait for the command to finish, in seconds (Default 5).

    The command should output the node addresses line by line through stdout.
"

def provider : Provider :=
  ⟨help, false, none, find⟩

end NodeDiscovery.CommandLine
