import NodeDiscovery.Shell.Tool.Basic

/-! Programs that take names of files apart. -/
namespace NodeDiscovery.Shell.Tool

def dropSlashes (t : Text) : Text := (t.reverse.dropWhile (· = '/')).reverse

def lastName (t : Text) : Text :=
  let kept := dropSlashes t
  if kept.isEmpty then t.take 1 else (kept.reverse.takeWhile (· ≠ '/')).reverse

def withoutSuffix (suffix name : Text) : Text :=
  if suffix.isSuffixOf name && suffix.length < name.length then
    name.take (name.length - suffix.length)
  else name

def directoryOf (t : Text) : Text :=
  let kept := dropSlashes t
  if kept.isEmpty then if t.isEmpty then ['.'] else ['/']
  else
    let before := (kept.reverse.dropWhile (· ≠ '/')).reverse
    if before.isEmpty then ['.']
    else
      let directory := dropSlashes before
      if directory.isEmpty then ['/'] else directory

def baseName (words : List Text) : Machine Unit := do
  let a ← arguments "basename" 1 ⟨"as:z", [("multiple", 'a'), ("suffix", 's'), ("zero", 'z')]⟩ false
    words
  let stop : Text := if a.has 'z' then ['\x00'] else ['\n']
  if a.operands.isEmpty then misuse "basename" 1 "missing operand".toList
  if a.has 'a' || a.has 's' then
    for t in a.operands do say (withoutSuffix ((a.value? 's').getD []) (lastName t) ++ stop)
  else match a.operands with
    | [t] => say (lastName t ++ stop)
    | [t, suffix] => say (withoutSuffix suffix (lastName t) ++ stop)
    | operands => misuse "basename" 1 ("extra operand ".toList ++ quoted (operands.getD 2 []))

def directoryName (words : List Text) : Machine Unit := do
  let a ← arguments "dirname" 1 ⟨"z", [("zero", 'z')]⟩ true words
  let stop : Text := if a.has 'z' then ['\x00'] else ['\n']
  if a.operands.isEmpty then misuse "dirname" 1 "missing operand".toList
  for t in a.operands do say (directoryOf t ++ stop)

end NodeDiscovery.Shell.Tool
