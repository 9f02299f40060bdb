import NodeDiscovery.Shell.Tool.Changing
import NodeDiscovery.Shell.Tool.Editing
import NodeDiscovery.Shell.Tool.Process
import NodeDiscovery.Shell.Tool.Sorting

/-! The programs of a common machine, besides shells. -/
namespace NodeDiscovery.Shell.Tool

/-- Programs by their names. `execute` becomes another program. -/
def all (execute : Execute) : List (String × (List Text → Machine Unit)) :=
  [("[", asProgram "[" (Condition.test ['['])),
    ("basename", baseName),
    ("cat", concatenate),
    ("chmod", changeModes),
    ("cp", copyFiles),
    ("cut", cut),
    ("dirname", directoryName),
    ("echo", writeArguments),
    ("egrep", search "egrep".toList),
    ("env", changeEnvironment execute),
    ("expr", calculate),
    ("false", fun _ => Machine.setStatus 1),
    ("fgrep", search "fgrep".toList),
    ("grep", search "grep".toList),
    ("head", beginning),
    ("id", identify),
    ("kill", asProgram "kill" Builtin.kill),
    ("ln", linkFiles),
    ("ls", listFiles),
    ("mkdir", makeDirectories),
    ("mktemp", makeTemporary),
    ("mv", moveFiles),
    ("nice", passOn execute "nice" ⟨"n:", [("adjustment", 'n')]⟩),
    ("nl", numbered),
    ("nohup", passOn execute "nohup" ⟨"", []⟩),
    ("paste", paste),
    ("printenv", printEnvironment),
    ("printf", asProgram "printf" Builtin.print),
    ("pwd", fun _ => do sayLine (← Machine.ask .directory).text),
    ("readlink", resolvePaths "readlink"),
    ("realpath", resolvePaths "realpath"),
    ("rev", reversed),
    ("rm", removeFiles),
    ("rmdir", removeDirectories),
    ("sed", edit),
    ("seq", sequence),
    ("setsid", passOn execute "setsid" ⟨"cfw", []⟩),
    ("sleep", sleep),
    ("sort", sort),
    ("stdbuf", passOn execute "stdbuf" ⟨"i:o:e:", []⟩),
    ("sync", fun _ => Machine.succeed),
    ("tac", backwards),
    ("tail", ending),
    ("tee", copyTo),
    ("test", asProgram "test" (Condition.test "test".toList)),
    ("timeout", limitTime execute),
    ("touch", touchFiles),
    ("tr", translate),
    ("true", fun _ => Machine.succeed),
    ("uname", describeSystem),
    ("uniq", unique),
    ("wc", count),
    ("whoami", fun _ => sayLine "root".toList),
    ("xargs", runWithInput execute),
    ("yes", affirm)]

def find? (execute : Execute) (name : Text) : Option (List Text → Machine Unit) :=
  (all execute).lookup (String.ofList name)

def names : List String :=
  ["bash", "dash", "sh"] ++ (all fun _ _ _ => Machine.succeed).map Prod.fst

end NodeDiscovery.Shell.Tool
