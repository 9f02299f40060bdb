import NodeDiscovery.Shell.Machine

/-! What programs have in common: options, inputs, and how they tell of errors. -/
namespace NodeDiscovery.Shell.Tool

/-- Something that becomes a program, given its variables, the places where it is looked for, and
its words. -/
abbrev Execute := List (Text × Text) → Text → List Text → Machine Unit

def complain (tool : String) (message : Text) : Machine Unit := do
  Machine.put 2 (tool.toList ++ ": ".toList ++ message ++ ['\n'])
  Machine.setStatus 1

def fail {α : Type} (tool : String) (status : Nat) (message : Text) : Machine α := do
  complain tool message
  Machine.setStatus status
  throw .ended

def misuse {α : Type} (tool : String) (status : Nat) (message : Text) : Machine α :=
  fail tool status (message ++ ("\nTry '" ++ tool ++ " --help' for more information.").toList)

def say (t : Text) : Machine Unit := Machine.put 1 t

def sayLine (t : Text) : Machine Unit := say (t ++ ['\n'])

def quoted (t : Text) : Text := '\'' :: t ++ ['\'']

/-- The options that a program knows: letters, of which those with a colon after them take an
argument, and longer names for some of them. -/
structure Known where
  letters : String
  names : List (String × Char) := []

/-- Whether a letter is known, and whether it takes an argument. -/
def Known.letter? (k : Known) (c : Char) : Option Bool :=
  match k.letters.toList.dropWhile (· ≠ c) with
  | _ :: ':' :: _ => if c = ':' then none else some true
  | _ :: _ => if c = ':' then none else some false
  | [] => none

structure Arguments where
  options : List (Char × Text)
  operands : List Text

namespace Arguments

def has (a : Arguments) (c : Char) : Bool := a.options.any (·.1 = c)

def value? (a : Arguments) (c : Char) : Option Text :=
  (a.options.reverse.find? (·.1 = c)).map Prod.snd

end Arguments

/-- Reads options; the number bounds their number. With `mixed` they may also stand after other
arguments. -/
def readArguments (k : Known) (mixed : Bool) : Nat → List Text → Except Text Arguments
  | 0, words => .ok ⟨[], words⟩
  | _, [] => .ok ⟨[], []⟩
  | n + 1, word :: rest => do
    let take (option : Char × Text) (rest : List Text) : Except Text Arguments := do
      let a ← readArguments k mixed n rest
      return { a with options := option :: a.options }
    match word with
    | ['-', '-'] => return ⟨[], rest⟩
    | '-' :: '-' :: long =>
      let name := long.takeWhile (· ≠ '=')
      let value := (long.dropWhile (· ≠ '=')).tail
      let hasValue := long.contains '='
      let exact := k.names.filter fun o => o.1.toList = name
      let fitting := k.names.filter fun o => name.isPrefixOf o.1.toList
      match if exact.isEmpty then fitting else exact with
      | (_, c) :: others =>
        if others.any (·.2 ≠ c) then .error ("option '--".toList ++ name ++ "' is ambiguous".toList)
        else if k.letter? c = some true then
          match hasValue, rest with
          | true, _ => take (c, value) rest
          | false, value :: rest => take (c, value) rest
          | false, [] => .error ("option '--".toList ++ name ++ "' requires an argument".toList)
        else if hasValue then
          .error ("option '--".toList ++ name ++ "' doesn't allow an argument".toList)
        else take (c, []) rest
      | [] => .error ("unrecognized option '".toList ++ word ++ ['\''])
    | '-' :: c :: more =>
      match k.letter? c with
      | none => .error ("invalid option -- '".toList ++ [c, '\''])
      | some false => take (c, []) (if more.isEmpty then rest else ('-' :: more) :: rest)
      | some true =>
        match more, rest with
        | [], [] => .error ("option requires an argument -- '".toList ++ [c, '\''])
        | [], value :: rest => take (c, value) rest
        | value, rest => take (c, value) rest
    | _ =>
      if mixed then
        let a ← readArguments k mixed n rest
        return { a with operands := word :: a.operands }
      else return ⟨[], word :: rest⟩

def arguments (tool : String) (status : Nat) (k : Known) (mixed : Bool) (words : List Text) :
    Machine Arguments :=
  match readArguments k mixed (1 + words.length + words.flatten.length) words with
  | .ok a => return a
  | .error message => misuse tool status message

/-- Hands on what a descriptor gives, part by part, until that is enough; the number bounds the
parts. -/
def forParts (descriptor : Nat) (most : Option Nat) (act : Text → Machine Bool) :
    Nat → Machine (Option Refusal)
  | 0 => return none
  | n + 1 => do
    match ← Machine.ask (.read descriptor most) with
    | .error e => return some e
    | .ok [] => return none
    | .ok t => if ← act t then forParts descriptor most act n else return none

/-- Opens the inputs with some names one after the other. A dash stands for what the program is
given. -/
def forInputs (tool : String) (act : Text → Nat → Machine (Option Refusal)) :
    List Text → Machine Unit
  | [] => pure ()
  | name :: rest => do
    let told (e : Refusal) : Machine Unit := complain tool (name ++ (": " ++ e.message).toList)
    if name = ['-'] then
      if let some e ← act name 0 then told e
    else match ← Machine.ask (.open 10 name .input) with
      | .error e => told e
      | .ok () =>
        if let some e ← act name 10 then told e
        Machine.ask (.close 10)
    forInputs tool act rest

def readInput (keep : Text → Text → Machine Unit) (name : Text) (descriptor : Nat) :
    Machine (Option Refusal) := do
  match ← Machine.readAll descriptor Machine.bound with
  | .ok t =>
    keep name t
    return none
  | .error e => return some e

def readTexts (tool : String) : List Text → Machine (List (Text × Text))
  | [] => return []
  | name :: rest => do
    let input ← if name = ['-'] then Machine.readAll 0 Machine.bound else do
      match ← Machine.ask (.open 10 name .input) with
      | .error e => pure (.error e)
      | .ok () =>
        let t ← Machine.readAll 10 Machine.bound
        Machine.ask (.close 10)
        pure t
    match input with
    | .error e =>
      complain tool (name ++ (": " ++ e.message).toList)
      readTexts tool rest
    | .ok t => return (name, t) :: (← readTexts tool rest)

/-- The inputs with some names; without names it is what the program is given. -/
def inputs (tool : String) (names : List Text) : Machine (List (Text × Text)) :=
  readTexts tool (if names.isEmpty then [['-']] else names)

def inputLines (tool : String) (names : List Text) : Machine (List Text) := do
  return (← inputs tool names).flatMap fun input => (splitLines input.2).1

def padLeft (width : Nat) (t : Text) : Text := List.replicate (width - t.length) ' ' ++ t

end NodeDiscovery.Shell.Tool
