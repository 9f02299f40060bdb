import NodeDiscovery.Discovery
import NodeDiscovery.LogFilter
import NodeDiscovery.World.Offline

/-! The command line: `addrs` writes the addresses found, anything else the help. -/
namespace NodeDiscovery.Cli

/-- What the program leaves behind. -/
structure Result where
  stdout : String
  /-- Complete lines. -/
  stderr : List String
  exit : Nat
deriving DecidableEq, Repr

def usage : String :=
"Usage: node-addrs addrs [-q] key=val key=val ...
       node-addrs help [provider]
"

/-- The target of the program's own records. -/
def target : String := "node_addrs"

/-- The lines of a record. All but the first are indented. -/
def lines (r : Record) : List String :=
  let label := r.level.label
  let start := "[" ++ label ++ String.ofList (List.replicate (5 - label.length) ' ') ++ " " ++
    r.target ++ "] "
  match Text.splitAt '\n' r.text.toList with
  | [] => [start]
  | first :: rest =>
    (start ++ String.ofList first) :: rest.map fun line => "    " ++ String.ofList line

/-- The help of one provider, or of all where none of that name is known. -/
def help (registry : Registry) (name : Option String) : Result :=
  let text := match name.bind registry.get? with
    | some p => Registry.globalHelp ++ "\n" ++ p.help ++ "\n"
    | none => registry.help ++ "\n"
  ⟨usage ++ "\n" ++ text, [], 0⟩

/-- Looks for addresses. With `-q`, no records of the search are written, only its failure. -/
def addresses (registry : Registry) (world : World) (filter : LogFilter) (arguments : List String) :
    Result :=
  let quiet := arguments.head? = some "-q"
  let arguments := if quiet then arguments.tail else arguments
  let logger := filter.logger
  let opening : Record :=
    ⟨.info, target, "Registered providers: " ++ Text.quotedList registry.names⟩
  let trace := (registry.discover world (" ".intercalate arguments)).run
    (if quiet then .discard else logger)
  let search := (if quiet then [] else logger.taken [opening]) ++ trace.log
  let (stdout, closing, exit) := match trace.result with
    | .ok found => (" ".intercalate found ++ "\n", [], 0)
    | .error fault => ("", logger.taken [⟨.error, target, fault.message⟩], 1)
  ⟨stdout, ((search ++ closing).filter fun r => filter.admits r.text).flatMap lines, exit⟩

/-- Runs the program. The variable `RUST_LOG` says which records to write. -/
def run (world : World) (arguments : List String) : Result :=
  let registry := Registry.standard
  let (filter, warnings) := LogFilter.ofText ((world.env "RUST_LOG").getD "")
  let result := match arguments with
    | "addrs" :: rest => addresses registry world filter rest
    | _ => help registry (arguments[1]?)
  { result with stderr := warnings ++ result.stderr }

end NodeDiscovery.Cli
