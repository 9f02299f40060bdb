import NodeDiscovery.Duration.Basic
import NodeDiscovery.Shell.Evaluation
import NodeDiscovery.Shell.System
import NodeDiscovery.Text.Utf8

/-! Running a command line from its beginning to its end. -/
namespace NodeDiscovery.Shell
open NodeDiscovery.Text (Utf8.encode)

def usualVariables : List (String × String) :=
  [("PATH", Builtin.usualPath), ("HOME", "/root")]

def workingDirectory : String := "/work"

def shellTask (bindings : List (String × String)) (line : String) : Task :=
  let bytes (s : String) : Text := textOfBytes (Utf8.encode s.toList)
  let environment := (usualVariables ++ bindings).map fun v => (bytes v.1, bytes v.2)
  let me : Identity := ⟨System.first, System.first - 1⟩
  let r := runner Machine.bound
  let start := Session.start "sh".toList environment me workingDirectory.toList
  r.toEnd (r.runText { isLast := true } (bytes line)) start
    (fun _ s => .done s.status) fun _ s => .done s.status

/-- How a command line ends, if it does within some time. -/
def outcome (bindings : List (String × String)) (line : String) (limit : Duration) :
    Option Outcome :=
  (System.start (Files.standard Tool.names) (Files.pathOf workingDirectory)
    (shellTask bindings line)).run limit.nanoseconds Machine.bound

end NodeDiscovery.Shell
