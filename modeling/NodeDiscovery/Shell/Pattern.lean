import NodeDiscovery.Shell.Text

/-! Patterns of the shell. -/
namespace NodeDiscovery.Shell

abbrev MarkedText := List (Char × Bool)

def charClass? (name : String) : Option (Char → Bool) :=
  let isPrinted (c : Char) : Bool := ' ' < c && c < '\x7f'
  let isAlphanum (c : Char) : Bool := c.isAlpha || c.isDigit
  match name with
  | "alnum" => some isAlphanum
  | "alpha" => some Char.isAlpha
  | "blank" => some fun c => c = ' ' || c = '\t'
  | "cntrl" => some fun c => c < ' ' || c = '\x7f'
  | "digit" => some Char.isDigit
  | "graph" => some isPrinted
  | "lower" => some Char.isLower
  | "print" => some fun c => c = ' ' || isPrinted c
  | "punct" => some fun c => isPrinted c && !isAlphanum c
  | "space" => some isSpace
  | "upper" => some Char.isUpper
  | "xdigit" => some fun c =>
    c.isDigit || ('a' ≤ c && c ≤ 'f') || ('A' ≤ c && c ≤ 'F')
  | _ => none

inductive BracketItem
  | range (first last : Char)
  | named (name : String)
deriving DecidableEq, Repr

def BracketItem.contains (c : Char) : BracketItem → Bool
  | range first last => first ≤ c && c ≤ last
  | named name => (charClass? name).any (· c)

inductive Wildcard
  | char (c : Char)
  | one
  | many
  /-- A character in one of the items, or in none of them. -/
  | oneOf (negated : Bool) (items : List BracketItem)
deriving DecidableEq, Repr

abbrev Pattern := List Wildcard

/-- A backslash that comes from a value quotes the character after it. -/
def resolveBackslashes : MarkedText → MarkedText
  | ('\\', false) :: (c, _) :: rest => (c, true) :: resolveBackslashes rest
  | c :: rest => c :: resolveBackslashes rest
  | [] => []

def readClassName? (t : MarkedText) : Option (String × MarkedText) :=
  let name := String.ofList ((t.takeWhile (fun c => c.1.isAlpha)).map Prod.fst)
  match t.dropWhile (fun c => c.1.isAlpha) with
  | (':', false) :: (']', false) :: rest =>
    if (charClass? name).isSome then some (name, rest) else none
  | _ => none

/-- The items up to a closing bracket, and the rest; the number bounds their length. A bracket
closes nothing at the beginning. -/
def readItems (first : Bool) : Nat → MarkedText → Option (List BracketItem × MarkedText)
  | 0, _ | _, [] => none
  | n + 1, (c, q) :: rest =>
    let more (item : BracketItem) (rest : MarkedText) : Option (List BracketItem × MarkedText) :=
      (readItems false n rest).map fun (items, rest) => (item :: items, rest)
    let single : Option (List BracketItem × MarkedText) :=
      match rest with
      | ('-', false) :: (d, e) :: after =>
        if d = ']' && !e then more (.range c c) rest else more (.range c d) after
      | _ => more (.range c c) rest
    if c = ']' && !q && !first then some ([], rest)
    else match c, q, rest with
      | '[', false, (':', false) :: after =>
        match readClassName? after with
        | some (name, after) => more (.named name) after
        | none => single
      | _, _, _ => single

/-- Reads a pattern; the number bounds its length. Brackets that are not closed stand for
themselves. -/
def Pattern.read : Nat → MarkedText → Pattern
  | 0, _ | _, [] => []
  | n + 1, ('*', false) :: rest => .many :: read n rest
  | n + 1, ('?', false) :: rest => .one :: read n rest
  | n + 1, ('[', false) :: rest =>
    let (negated, inside) := match rest with
      | ('!', false) :: inside | ('^', false) :: inside => (true, inside)
      | inside => (false, inside)
    match readItems true inside.length inside with
    | some (items, after) => .oneOf negated items :: read n after
    | none => .char '[' :: read n rest
  | n + 1, (c, _) :: rest => .char c :: read n rest

def Pattern.ofMarked (t : MarkedText) : Pattern :=
  let t := resolveBackslashes t
  read t.length t

def Wildcard.accepts (w : Wildcard) (c : Char) : Bool :=
  match w with
  | char d => c = d
  | one | many => true
  | oneOf negated items => items.any (·.contains c) != negated

def Pattern.matches : Pattern → Text → Bool
  | [], t => t.isEmpty
  | .many :: ws, [] => Pattern.matches ws []
  | .many :: ws, c :: t => Pattern.matches ws (c :: t) || Pattern.matches (.many :: ws) t
  | _ :: _, [] => false
  | w :: ws, c :: t => w.accepts c && Pattern.matches ws t
termination_by ws t => (ws.length, t.length)

/-- A text without the shortest or longest match at its beginning. -/
def Pattern.trimStart (p : Pattern) (longest : Bool) (t : Text) : Text :=
  let lengths := List.range (t.length + 1)
  let fits (n : Nat) : Bool := p.matches (t.take n)
  t.drop (((if longest then lengths.reverse else lengths).find? fits).getD 0)

/-- A text without the shortest or longest match at its end. -/
def Pattern.trimEnd (p : Pattern) (longest : Bool) (t : Text) : Text :=
  let lengths := List.range (t.length + 1)
  let fits (n : Nat) : Bool := p.matches (t.drop n)
  t.take (((if longest then lengths else lengths.reverse).find? fits).getD t.length)

end NodeDiscovery.Shell
