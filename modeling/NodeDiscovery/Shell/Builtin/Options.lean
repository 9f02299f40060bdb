import NodeDiscovery.Shell.Machine

/-! Options in the arguments of commands. -/
namespace NodeDiscovery.Shell.Builtin

/-- Reads options: letters after a dash, of which those with a colon after them in the list take an
argument. The options come out with what is left; the number bounds their number. -/
def readOptions (letters : String) : Nat → List Text → Machine (List (Char × Text) × List Text)
  | 0, arguments => return ([], arguments)
  | n + 1, arguments => do
    match arguments with
    | ['-', '-'] :: rest => return ([], rest)
    | ('-' :: c :: more) :: rest =>
      match letters.toList.dropWhile (· ≠ c) with
      | [] => Machine.fail ("Illegal option -".toList ++ [c])
      | _ :: after =>
        if c = ':' then Machine.fail ("Illegal option -".toList ++ [c])
        if after.head? = some ':' then
          match more, rest with
          | [], [] => Machine.fail ("No arg for -".toList ++ c :: " option".toList)
          | [], value :: rest =>
            let (options, rest) ← readOptions letters n rest
            return ((c, value) :: options, rest)
          | value, rest =>
            let (options, rest) ← readOptions letters n rest
            return ((c, value) :: options, rest)
        else
          let (options, rest) ← readOptions letters n
            (if more.isEmpty then rest else ('-' :: more) :: rest)
          return ((c, []) :: options, rest)
    | _ => return ([], arguments)

def options (letters : String) (arguments : List Text) :
    Machine (List (Char × Text) × List Text) :=
  readOptions letters (1 + arguments.flatten.length) arguments

def operands (arguments : List Text) : Machine (List Text) :=
  return (← options "" arguments).2

def count (t : Text) : Machine Nat :=
  match count? t with
  | some n => return n
  | none => Machine.fail ("Illegal number: ".toList ++ t)

/-- A text between quotes, so that a shell reads it as it is. -/
def singleQuoted (t : Text) : Text := go (t.length + 1) t
where
  go : Nat → Text → Text
    | 0, _ => []
    | n + 1, t =>
      let plain := t.takeWhile (· ≠ '\'')
      let rest := t.dropWhile (· ≠ '\'')
      let quotes := rest.takeWhile (· = '\'')
      let rest := rest.dropWhile (· = '\'')
      ['\''] ++ plain ++ ['\''] ++
        (if quotes.isEmpty then [] else '\"' :: quotes ++ ['\"']) ++
        (if rest.isEmpty then [] else go n rest)

def splitAssignment (t : Text) : Text × Option Text :=
  match t.takeWhile (· ≠ '='), t.dropWhile (· ≠ '=') with
  | name, '=' :: value => (name, some value)
  | name, _ => (name, none)

end NodeDiscovery.Shell.Builtin
