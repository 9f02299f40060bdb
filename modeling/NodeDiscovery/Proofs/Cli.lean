import NodeDiscovery.Cli
import NodeDiscovery.Proofs.Config.Scan
import NodeDiscovery.Proofs.Logging

/-! What the program leaves behind when it has looked for addresses. How the search ended shows in
the output and in the exit; the records show in what is told beside, unless the program is to be
quiet. -/
namespace NodeDiscovery

namespace Registry

theorem transparent_standard : standard.Transparent := by
  intro name p registered
  have hrow := (Table.get?_ofList_eq_some_iff (by decide)).mp registered
  simp only [List.mem_cons, Prod.mk.injEq, List.not_mem_nil, or_false] at hrow
  obtain ⟨-, rfl⟩ | ⟨-, rfl⟩ | ⟨-, rfl⟩ | ⟨-, rfl⟩ | ⟨-, rfl⟩ | ⟨-, rfl⟩ | ⟨-, rfl⟩ := hrow
  · exact Builtin.aws.transparent_provider
  · exact Builtin.cmd.transparent_provider
  · exact (Builtin.digitalOcean _).transparent_provider
  · exact Builtin.dns.transparent_provider
  · exact (Builtin.hetzner _).transparent_provider
  · exact (Builtin.linode _).transparent_provider
  · exact (Builtin.vultr _).transparent_provider

end Registry

namespace Cli
variable {registry : Registry} {world : World} {filter : LogFilter} {arguments : List String}

/-- The arguments without the option that keeps the program quiet. It has to be the first of them,
and only one is taken off. -/
def withoutQuiet : List String → List String
  | "-q" :: rest => rest
  | arguments => arguments

def shown (filter : LogFilter) (records : List Record) : List String :=
  ((filter.logger.taken records).filter fun r => filter.admits r.text).flatMap lines

def opening (registry : Registry) : Record :=
  ⟨.info, target, "Registered providers: " ++ Text.quotedList registry.names⟩

/-- What is told of a search with this log before it is known how it ended. -/
def told (filter : LogFilter) (registry : Registry) (arguments : List String) (log : List Record) :
    List String :=
  if arguments.head? = some "-q" then [] else shown filter (opening registry :: log)

def leave (filter : LogFilter) (told : List String) : Except DiscoveryError (List String) → Result
  | .ok found => ⟨" ".intercalate found ++ "\n", told, 0⟩
  | .error fault => ⟨"", told ++ shown filter [⟨.error, target, fault.message⟩], 1⟩

@[simp] theorem withoutQuiet_quiet (rest : List String) : withoutQuiet ("-q" :: rest) = rest := rfl

theorem withoutQuiet_of_head (h : arguments.head? ≠ some "-q") :
    withoutQuiet arguments = arguments := by
  unfold withoutQuiet
  split
  · exact absurd rfl h
  · rfl

@[simp] theorem shown_append (filter : LogFilter) (xs ys : List Record) :
    shown filter (xs ++ ys) = shown filter xs ++ shown filter ys := by
  simp [shown]

theorem shown_cons (filter : LogFilter) (r : Record) (records : List Record) :
    shown filter (r :: records) = shown filter [r] ++ shown filter records :=
  shown_append filter [r] records

/-- The program passes on how a search ended. What the search has to tell is told whole or, if the
program is to be quiet, not at all. -/
theorem addresses_eq {search : Call DiscoveryError (List String)}
    (hsearch : registry.discover world (" ".intercalate (withoutQuiet arguments)) = search)
    (h : search.Transparent) :
    addresses registry world filter arguments =
      leave filter (told filter registry arguments (search.run .everything).log)
        (search.run .everything).result := by
  by_cases hquiet : arguments.head? = some "-q"
  · obtain ⟨rest, rfl⟩ := List.head?_eq_some_iff.mp hquiet
    rw [withoutQuiet_quiet] at hsearch
    simp only [addresses, told, List.head?_cons, if_true, List.tail_cons, hsearch, h .discard]
    cases (search.run .everything).result <;> simp [leave, shown]
  · rw [withoutQuiet_of_head hquiet] at hsearch
    simp only [addresses, told, hquiet, if_false, hsearch, h filter.logger]
    rw [shown_cons]
    cases (search.run .everything).result <;> simp [leave, shown, opening]

theorem run_eq {search : Call DiscoveryError (List String)}
    (hsearch : Registry.standard.discover world (" ".intercalate (withoutQuiet arguments)) = search)
    (h : search.Transparent) :
    let read := LogFilter.ofText ((world.env "RUST_LOG").getD "")
    run world ("addrs" :: arguments) =
      leave read.1 (read.2 ++ told read.1 .standard arguments (search.run .everything).log)
        (search.run .everything).result := by
  intro read
  simp only [run, addresses_eq hsearch h]
  cases (search.run .everything).result <;> simp [leave, read]

/-- The command line keeps its contract, whatever the arguments, the environment and the services
are.

The program succeeds if and only if the library does on the joined arguments. It then writes the
addresses that were found and a line end, and otherwise nothing but the failure, which it tells as
an error. A quiet program tells no more than that; the same arguments without that option lead to
the same output and exit, and to the same lines with those of the registered providers and of the
search before them. -/
theorem run_addrs (world : World) (arguments : List String) (logger : Logger) :
    let filter := (LogFilter.ofText ((world.env "RUST_LOG").getD "")).1
    let warnings := (LogFilter.ofText ((world.env "RUST_LOG").getD "")).2
    let search := Registry.standard.discover world (" ".intercalate (withoutQuiet arguments))
    let log := (search.run .everything).log
    let before := warnings ++ told filter .standard arguments log
    let left := run world ("addrs" :: arguments)
    (left.exit = 0 ↔ ∃ found, (search.run logger).result = .ok found) ∧
    (∀ found, (search.run logger).result = .ok found →
      left = ⟨" ".intercalate found ++ "\n", before, 0⟩) ∧
    (∀ fault, (search.run logger).result = .error fault →
      left = ⟨"", before ++ shown filter [⟨.error, target, fault.message⟩], 1⟩) ∧
    (arguments.head? ≠ some "-q" →
      let quiet := run world ("addrs" :: "-q" :: arguments)
      quiet.stdout = left.stdout ∧ quiet.exit = left.exit ∧
        ∃ failure, quiet.stderr = warnings ++ failure ∧
          left.stderr = warnings ++ shown filter (opening .standard :: log) ++ failure) := by
  intro filter warnings search log before left
  have htransparent : search.Transparent :=
    Registry.transparent_standard.discover world _
  have hresult : (search.run logger).result = (search.run .everything).result := by
    rw [htransparent logger]
  have hleft : left = leave filter before (search.run .everything).result :=
    run_eq rfl htransparent
  rw [hleft, hresult]
  refine ⟨?_, fun found hfound => ?_, fun fault hfault => ?_, fun hplain => ?_⟩
  · cases (search.run .everything).result <;> simp [leave]
  · rw [hfound, leave]
  · rw [hfault, leave]
  · intro quiet
    have hsearch : Registry.standard.discover world
        (" ".intercalate (withoutQuiet ("-q" :: arguments))) = search := by
      rw [withoutQuiet_quiet, ← withoutQuiet_of_head hplain]
    have hquiet : quiet = leave filter (warnings ++ []) (search.run .everything).result :=
      run_eq hsearch htransparent
    have htold : told filter .standard arguments log = shown filter (opening .standard :: log) :=
      if_neg hplain
    have hbefore : before = warnings ++ shown filter (opening .standard :: log) :=
      congrArg (warnings ++ ·) htold
    rw [hquiet, hbefore, List.append_nil]
    cases (search.run .everything).result with
    | ok found => exact ⟨rfl, rfl, [], by simp [leave], by simp [leave]⟩
    | error fault => exact ⟨rfl, rfl, shown filter [⟨.error, target, fault.message⟩], rfl, rfl⟩

/-- Of two options that keep the program quiet, the second one is text, and cannot be read. What a
command writes line by line is written in one line, below what was told. -/
theorem run_addrs_sample :
    run (World.offline []) ["addrs", "-q", "-q"] =
      ⟨"", ["[ERROR node_addrs] discover: -q: missing '='"], 1⟩ ∧
    let nodes : Shell.Outcome := ⟨.exited 0, "10.0.0.1\n10.0.0.2\n".toList.map Char.toUInt8, 0⟩
    run { World.offline [("RUST_LOG", "discover-cmd=debug")] with shell := fun _ _ => some nodes }
        ["addrs", "provider=cmd", "cmdline=nodes"] =
      ⟨"10.0.0.1 10.0.0.2\n", ["[DEBUG discover-cmd] Running \"nodes\" with timeout 5s",
        "[DEBUG discover-cmd] Found ip addresses: [\"10.0.0.1\", \"10.0.0.2\"]"], 0⟩ := by
  refine ⟨?_, ?_⟩
  · have hparse : Config.parse "-q" = .error (.missingEquals "-q") :=
      Config.readPairs_of_error (by decide) (by rfl)
    have hresult : ((Registry.standard.discover (World.offline [])
        (" ".intercalate (withoutQuiet ["-q", "-q"]))).run .discard).result =
          .error (.config (.missingEquals "-q")) := by
      rw [withoutQuiet_quiet, String.intercalate_singleton, Registry.discover, hparse]
      rfl
    obtain ⟨-, -, hfailed, -⟩ := run_addrs (World.offline []) ["-q", "-q"] .discard
    rw [hfailed _ hresult]
    decide +kernel
  · intro nodes
    obtain ⟨-, hfound, -, -⟩ := run_addrs { World.offline [("RUST_LOG", "discover-cmd=debug")] with
      shell := fun _ _ => some nodes } ["provider=cmd", "cmdline=nodes"] .discard
    rw [hfound ["10.0.0.1", "10.0.0.2"] (by decide +kernel)]
    decide +kernel

end Cli
end NodeDiscovery
