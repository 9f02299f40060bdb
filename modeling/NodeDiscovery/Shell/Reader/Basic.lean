import NodeDiscovery.Shell.Syntax

/-! Reading scripts character by character, with the lines counted. -/
namespace NodeDiscovery.Shell

/-- The sign of a redirection, and the descriptor that it is for. -/
structure Sign where
  kind : RedirectionKind
  descriptor : Nat
  /-- For a text in the script: whether tabs in front of its lines are dropped. -/
  dropsTabs : Bool

inductive Token
  | ended
  | newline
  | semicolon
  | ampersand
  | and
  | or
  | bar
  | opening
  | closing
  | armEnd
  | redirection (s : Sign)
  | word (w : Word)
  | keyword (k : String)

def Token.name : Token → String
  | ended => "end of file"
  | newline => "newline"
  | semicolon => "\";\""
  | ampersand => "\"&\""
  | and => "\"&&\""
  | or => "\"||\""
  | bar => "\"|\""
  | opening => "\"(\""
  | closing => "\")\""
  | armEnd => "\";;\""
  | redirection _ => "redirection"
  | word _ => "word"
  | keyword k => "\"" ++ k ++ "\""

/-- Words that have a meaning where a command is expected. -/
def keywords : List String :=
  ["!", "case", "do", "done", "elif", "else", "esac", "fi", "for", "if", "in", "then", "until",
    "while", "\x7b", "\x7d"]

structure Check where
  newlines : Bool := false
  keywords : Bool := false
  aliases : Bool := false
  /-- The token ends a text in the script, so nothing in it is expanded. -/
  isDelimiter : Bool := false

structure Announced where
  number : Nat
  delimiter : Text
  dropsTabs : Bool
  isQuoted : Bool

/-- An alias that stands in the text: it ends where so many characters are left. -/
structure Inserted where
  name : Text
  left : Nat
  endsBlank : Bool

structure Reading where
  rest : Text
  /-- The length of the rest. -/
  left : Nat
  line : Nat
  check : Check
  /-- A token that was put back. -/
  back : Option Token
  announced : List Announced
  /-- Texts in the script that have been read, with their numbers. -/
  documents : List (Nat × Word)
  fresh : Nat
  aliases : List (Text × Text)
  inserted : List Inserted

structure SyntaxFault where
  line : Nat
  message : String

abbrev Reader := StateT Reading (Except SyntaxFault)

namespace Reader

def fail {α : Type} (message : String) : Reader α := do
  throw ⟨(← get).line, "Syntax error: " ++ message⟩

def unexpected {α : Type} (t : Token) : Reader α := fail (t.name ++ " unexpected")

def expected {α : Type} (t wanted : Token) : Reader α :=
  fail (t.name ++ " unexpected (expecting " ++ wanted.name ++ ")")

def peek? : Reader (Option Char) := return (← get).rest.head?

def next? : Reader (Option Char) := do
  let s ← get
  match s.rest with
  | [] => return none
  | c :: rest =>
    set { s with rest, left := s.left - 1, line := if c = '\n' then s.line + 1 else s.line }
    return some c

def skip : Reader Unit := do
  let _ ← next?

/-- Joins lines that a backslash parts; the number bounds how many. -/
def joinLines : Nat → Reader Unit
  | 0 => pure ()
  | n + 1 => do
    match (← get).rest with
    | '\\' :: '\n' :: _ =>
      skip
      skip
      joinLines n
    | _ => pure ()

def peekJoined? : Reader (Option Char) := do
  joinLines (← get).left
  peek?

/-- Takes the next character of joined lines if it is a certain one. -/
def accept (c : Char) : Reader Bool := do
  if (← peekJoined?) = some c then
    skip
    return true
  else return false

/-- Takes characters as long as they fit; the number bounds how many. -/
def takeWhile (p : Char → Bool) : Nat → Reader Text
  | 0 => return []
  | n + 1 => do
    match ← peekJoined? with
    | some c =>
      if p c then
        skip
        return c :: (← takeWhile p n)
      else return []
    | none => return []

/-- Takes raw characters up to one that ends them, and that one; nothing if it is missing. -/
def takeTo? (stop : Char) : Nat → Reader (Option Text)
  | 0 => return none
  | n + 1 => do
    match ← next? with
    | none => return none
    | some c =>
      if c = stop then return some []
      else return (← takeTo? stop n).map (c :: ·)

def look (newlines keywords aliases : Bool) : Reader Unit :=
  modify fun s => { s with check := { newlines, keywords, aliases } }

def putBack (t : Token) : Reader Unit := modify fun s => { s with back := some t }

end Reader

/-- Puts a piece before others. Neighbours of one kind become one. -/
def joinPiece : Piece → Word → Word
  | .text a q, .text b r :: rest =>
    if q = r then .text (a ++ b) q :: rest else .text a q :: .text b r :: rest
  | p, rest => p :: rest

/-- Pieces between quotes. All parameters in quotes, and nothing else, are no field if there are
none. -/
def quotedWord (pieces : Word) : Word :=
  match pieces with
  | [.parameter ['@'] .none _ _] => pieces
  | _ => .mark :: pieces ++ [.mark]

def endsWord (c : Char) : Bool := c ∈ [' ', '\t', '\n', ';', '&', '|', '(', ')', '<', '>']

def isSpecialName (c : Char) : Bool := c ∈ ['?', '#', '@', '*', '$', '!', '-']

/-- Where a part of a word stands decides where it ends and what its backslashes do. -/
inductive Place
  | bare
  | braces
  | quotes
  /-- In braces inside quotes. -/
  | quotedBraces
  /-- In quotes inside braces. -/
  | innerQuotes
  /-- In a text in the script. -/
  | document
  /-- In an arithmetic expression. -/
  | parentheses
deriving DecidableEq, Repr

namespace Place

def isQuoted : Place → Bool
  | bare | braces => false
  | _ => true

def isEnd (place : Place) (c : Char) : Bool :=
  match place with
  | bare => endsWord c
  | braces | quotedBraces => c == '\x7d'
  | quotes | innerQuotes => c == '\"'
  | document | parentheses => false

/-- Whether a backslash takes its meaning from the character. -/
def escapes (place : Place) (c : Char) : Bool :=
  match place with
  | bare | braces => true
  | quotes | parentheses => c ∈ ['$', '\"', '\\', '\x60']
  | quotedBraces | innerQuotes => c ∈ ['$', '\"', '\\', '\x60', '\x7d']
  | document => c ∈ ['$', '\\', '\x60']

def missing : Place → String
  | braces => "Missing '\x7d'"
  | parentheses => "Missing '))'"
  | _ => "Unterminated quoted string"

def inside (place : Place) (trims : Bool) : Place :=
  if trims || !place.isQuoted then braces else quotedBraces

end Place

def splitBackquoted (quoted : Bool) : Text → Option (Text × Text)
  | [] => none
  | '\x60' :: rest => some ([], rest)
  | '\\' :: '\n' :: rest => splitBackquoted quoted rest
  | '\\' :: c :: rest =>
    (splitBackquoted quoted rest).map fun (t, rest) =>
      if c ∈ ['\x60', '\\', '$'] || (quoted && c == '\"') then (c :: t, rest)
      else ('\\' :: c :: t, rest)
  | c :: rest => (splitBackquoted quoted rest).map fun (t, rest) => (c :: t, rest)

/-- Commands that belong to the language itself: their assignments stay, and their errors end a
shell. -/
def specialCommands : List String :=
  [".", ":", "break", "continue", "eval", "exec", "exit", "export", "local", "readonly", "return",
    "set", "shift", "times", "trap", "unset"]

def isSpecialCommand (name : Text) : Bool := specialCommands.contains (String.ofList name)

end NodeDiscovery.Shell
