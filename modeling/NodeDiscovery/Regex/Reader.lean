import NodeDiscovery.Regex.Basic
import NodeDiscovery.Text.Numeral

/-! Reading regular expressions: groups, classes with set operations, counted repetitions, flags.
What is wrong with a text is said with the place where it shows. -/
namespace NodeDiscovery.Regex

inductive FaultKind
  | classEscape
  | classRange
  | classRangeBound
  | classUnclosed
  | decimalInvalid
  | hexEmpty
  | hexInvalid
  | hexDigit
  | escapeEnd
  | escapeUnknown
  | flagDanglingNegation
  | flagDuplicate
  | flagRepeatedNegation
  | flagEnd
  | flagUnknown
  | nameDuplicate
  | nameEmpty
  | nameInvalid
  | nameEnd
  | groupUnclosed
  | groupUnopened
  | countRange
  | countEmpty
  | countUnclosed
  | nothingToRepeat
  | property
  | propertyUnknown
  | backreference
  | lookAround
deriving DecidableEq, Repr

def FaultKind.message : FaultKind → String
  | classEscape => "invalid escape sequence found in character class"
  | classRange => "invalid character class range, the start must be <= the end"
  | classRangeBound => "invalid range boundary, must be a literal"
  | classUnclosed => "unclosed character class"
  | decimalInvalid => "decimal literal invalid"
  | hexEmpty => "hexadecimal literal empty"
  | hexInvalid => "hexadecimal literal is not a Unicode scalar value"
  | hexDigit => "invalid hexadecimal digit"
  | escapeEnd => "incomplete escape sequence, reached end of pattern prematurely"
  | escapeUnknown => "unrecognized escape sequence"
  | flagDanglingNegation => "dangling flag negation operator"
  | flagDuplicate => "duplicate flag"
  | flagRepeatedNegation => "flag negation operator repeated"
  | flagEnd => "expected flag but got end of regex"
  | flagUnknown => "unrecognized flag"
  | nameDuplicate => "duplicate capture group name"
  | nameEmpty => "empty capture group name"
  | nameInvalid => "invalid capture group character"
  | nameEnd => "unclosed capture group name"
  | groupUnclosed => "unclosed group"
  | groupUnopened => "unopened group"
  | countRange => "invalid repetition count range, the start must be <= the end"
  | countEmpty => "repetition quantifier expects a valid decimal"
  | countUnclosed => "unclosed counted repetition"
  | nothingToRepeat => "repetition operator missing expression"
  | property => "invalid Unicode character class"
  | propertyUnknown => "Unicode property not found"
  | backreference => "backreferences are not supported"
  | lookAround => "look-around, including look-ahead and look-behind, is not supported"

/-- A stretch of the text that is read, its end not included. -/
structure Span where
  start : Nat
  stop : Nat
deriving DecidableEq, Repr

/-- What is wrong, and where. A second place may show what the first one collides with. -/
structure Fault where
  kind : FaultKind
  span : Span
  other : Option Span
deriving DecidableEq, Repr

/-- The text with marks under the places of a fault. -/
def Fault.message (pattern : List Char) (f : Fault) : String :=
  let spans := match f.other with
    | none => [f.span]
    | some other => if other.start ≤ f.span.start then [other, f.span] else [f.span, other]
  let marks := spans.foldl (fun line span =>
    line ++ List.replicate (span.start - line.length) ' ' ++
      List.replicate (max 1 (span.stop - span.start)) '^') []
  "regex parse error:\n    " ++ String.ofList pattern ++ "\n    " ++ String.ofList marks ++
    "\nerror: " ++ f.kind.message

structure Flags where
  ignoreCase : Bool := false
  multiLine : Bool := false
  dotAll : Bool := false
  extended : Bool := false
  crlf : Bool := false

/-- How far a text is read. -/
structure Reading where
  pattern : Array Char
  place : Nat
  flags : Flags
  groups : Nat
  names : List (List Char × Span)

abbrev Reader := StateT Reading (Except Fault)

namespace Reader

def fail {α : Type} (kind : FaultKind) (start stop : Nat) : Reader α :=
  throw ⟨kind, ⟨start, stop⟩, none⟩

def place : Reader Nat := return (← get).place

def peek? : Reader (Option Char) := do
  let r ← get
  return r.pattern[r.place]?

def peekAt? (n : Nat) : Reader (Option Char) := do
  let r ← get
  return r.pattern[r.place + n]?

def skip (n : Nat) : Reader Unit := modify fun r => { r with place := r.place + n }

/-- Takes a text if it comes next. -/
def accept (t : String) : Reader Bool := do
  let r ← get
  if (r.pattern.extract r.place (r.place + t.length)).toList = t.toList then
    skip t.length
    return true
  else return false

/-- Where blanks mean nothing, skips them and comments. -/
def skipSpace : Reader Unit := do
  let r ← get
  if r.flags.extended then
    set { r with place := r.pattern.size - (drop (r.pattern.toList.drop r.place)).length }
where
  drop : List Char → List Char
    | [] => []
    | c :: rest =>
      if Text.isBlank c then drop rest
      else if c = '#' then dropLine rest
      else c :: rest
  dropLine : List Char → List Char
    | [] => []
    | c :: rest => if c = '\n' then drop rest else dropLine rest

/-- Goes on by one character, and says whether there is another one. -/
def bump : Reader Bool := do
  skip 1
  skipSpace
  return (← peek?).isSome

end Reader

open Reader

/-- A part of an expression that is no group and no class in brackets. -/
inductive Atom
  | char (c : Char)
  | set (s : CharSet)
  | anchor (a : Anchor)

/-- The characters with a meaning of their own. -/
def isMeta (c : Char) : Bool :=
  c ∈ ['\\', '.', '+', '*', '?', '(', ')', '|', '[', ']', '\x7b', '\x7d', '^', '$', '#', '&', '-',
    '~']

def isEscapable (c : Char) : Bool :=
  isMeta c || (c ≤ '\x7f' && !c.isAlphanum && c != '<' && c != '>')

/-- The rest of the digits of a code point. -/
def readHexDigits : Nat → List Char → Reader (List Char)
  | 0, digits => return digits.reverse
  | n + 1, digits => do
    match ← peek? with
    | none => fail .escapeEnd (← place) (← place)
    | some c =>
      if (Text.hexValue? c).isNone then fail .hexDigit (← place) ((← place) + 1)
      let _ ← bump
      readHexDigits n (c :: digits)

/-- The digits of a code point up to a brace. -/
def readHexBraced (opening : Nat) : Nat → List Char → Reader (List Char)
  | 0, digits => return digits.reverse
  | n + 1, digits => do
    match ← peek? with
    | none => fail .escapeEnd opening (← place)
    | some '\x7d' => return digits.reverse
    | some c =>
      if (Text.hexValue? c).isNone then fail .hexDigit (← place) ((← place) + 1)
      let _ ← bump
      readHexBraced opening n (c :: digits)

def charOfHex (digits : List Char) (start stop : Nat) : Reader Char := do
  let n := digits.foldl (fun n c => 16 * n + (Text.hexValue? c).getD 0) 0
  if h : n.isValidChar then return Char.ofNatAux n h else fail .hexInvalid start stop

/-- A code point in so many hexadecimal digits, or in braces. -/
def readHex (count : Nat) : Reader Char := do
  if !(← bump) then fail .escapeEnd (← place) (← place)
  let start ← place
  if (← peek?) = some '\x7b' then
    let _ ← bump
    let digits ← readHexBraced start (← get).pattern.size []
    let stop ← place
    let _ ← bump
    if digits.isEmpty then fail .hexEmpty start (← place)
    charOfHex digits (start + 1) stop
  else
    let digits ← readHexDigits count []
    charOfHex digits start (← place)

/-- The kinds of word edges that braces can name. -/
def readEdge : Reader Anchor := do
  if ← accept "\x7bstart\x7d" then return .wordStart
  else if ← accept "\x7bend\x7d" then return .wordEnd
  else return .wordEdge

/-- What a backslash and the characters after it mean. -/
def readEscape : Reader Atom := do
  let start ← place
  skip 1
  let some c ← peek? | fail .escapeEnd start (← place)
  if c.isDigit then fail .backreference start ((← place) + 1)
  match c with
  | 'x' => return .char (← readHex 2)
  | 'u' => return .char (← readHex 4)
  | 'U' => return .char (← readHex 8)
  | 'p' | 'P' => fail .propertyUnknown start ((← place) + 1)
  | _ =>
    skip 1
    if isEscapable c then return .char c
    match c with
    | 'd' => return .set .digit
    | 's' => return .set .blank
    | 'w' => return .set .word
    | 'D' => return .set (.not .digit)
    | 'S' => return .set (.not .blank)
    | 'W' => return .set (.not .word)
    | 'a' => return .char '\x07'
    | 'f' => return .char '\x0c'
    | 't' => return .char '\t'
    | 'n' => return .char '\n'
    | 'r' => return .char '\r'
    | 'v' => return .char '\x0b'
    | 'A' => return .anchor .textStart
    | 'z' => return .anchor .textEnd
    | 'b' => return .anchor (← readEdge)
    | 'B' => return .anchor .notWordEdge
    | '<' => return .anchor .wordStart
    | '>' => return .anchor .wordEnd
    | _ => fail .escapeUnknown start (← place)

/-- The named classes of ASCII characters. -/
def namedSet? : String → Option CharSet
  | "alnum" => some (.or (.or (.range 'a' 'z') (.range 'A' 'Z')) (.range '0' '9'))
  | "alpha" => some (.or (.range 'a' 'z') (.range 'A' 'Z'))
  | "ascii" => some (.range '\x00' '\x7f')
  | "blank" => some (.ofChars [' ', '\t'])
  | "cntrl" => some (.or (.range '\x00' '\x1f') (.single '\x7f'))
  | "digit" => some (.range '0' '9')
  | "graph" => some (.range '!' '~')
  | "lower" => some (.range 'a' 'z')
  | "print" => some (.range ' ' '~')
  | "punct" => some (.or (.or (.range '!' '/') (.range ':' '@')) (.or (.range '[' '`')
      (.range '\x7b' '~')))
  | "space" => some (.ofChars ['\t', '\n', '\x0b', '\x0c', '\r', ' '])
  | "upper" => some (.range 'A' 'Z')
  | "word" =>
    some (.or (.or (.range 'a' 'z') (.range 'A' 'Z')) (.or (.range '0' '9') (.single '_')))
  | "xdigit" => some (.or (.or (.range 'a' 'f') (.range 'A' 'F')) (.range '0' '9'))
  | _ => none

/-- Takes a named class if one comes next. -/
def readNamedSet : Reader (Option CharSet) := do
  let r ← get
  if !(← accept "[:") then return none
  let negated ← accept "^"
  let name := ((← get).pattern.toList.drop (← place)).takeWhile (· ≠ ':')
  skip name.length
  match namedSet? (String.ofList name), ← accept ":]" with
  | some s, true => return some (if negated then .not s else s)
  | _, _ =>
    set r
    return none

/-- A character or class inside brackets, with its place. -/
def readSetAtom : Reader (Atom × Span) := do
  let start ← place
  match ← peek? with
  | some '\\' =>
    let a ← readEscape
    return (a, ⟨start, ← place⟩)
  | some c =>
    skip 1
    return (.char c, ⟨start, start + 1⟩)
  | none => fail .classUnclosed start start

def Atom.bound : Atom × Span → Reader Char
  | (.char c, _) => return c
  | (_, span) => fail .classRangeBound span.start span.stop

def Atom.item : Atom × Span → Reader CharSet
  | (.char c, _) => return .single c
  | (.set s, _) => return s
  | (.anchor _, span) => fail .classEscape span.start span.stop

/-- Takes dashes at the beginning of a class. -/
def readDashes (opening : Nat) : Nat → CharSet → Reader CharSet
  | 0, s => return s
  | n + 1, s => do
    if (← peek?) ≠ some '-' then return s
    if !(← bump) then fail .classUnclosed opening opening
    readDashes opening n (.or s (.single '-'))

/-- What comes after the bracket that opens a class: whether it is negated, and what it begins
with. -/
def readSetStart (opening : Nat) : Reader (Bool × CharSet) := do
  if !(← bump) then fail .classUnclosed opening (← place)
  let negated := (← peek?) = some '^'
  if negated then
    if !(← bump) then fail .classUnclosed opening (← place)
  let s ← readDashes opening (← get).pattern.size .none
  if s = .none && (← peek?) = some ']' then
    if !(← bump) then fail .classUnclosed opening (← place)
    return (negated, .single ']')
  return (negated, s)

inductive SetOperation
  | both
  | without
  | either
deriving DecidableEq, Repr

def SetOperation.apply (s t : CharSet) : SetOperation → CharSet
  | both => .and s t
  | without => .and s (.not t)
  | either => .or (.and s (.not t)) (.and t (.not s))

def acceptOperation : Reader (Option SetOperation) := do
  if ← accept "&&" then return some .both
  else if ← accept "--" then return some .without
  else if ← accept "~~" then return some .either
  else return none

mutual

/-- A class from its opening bracket on. -/
def readSet : Nat → Reader CharSet
  | 0 => do fail .classUnclosed (← place) (← place)
  | n + 1 => do
    let opening ← place
    let (negated, first) ← readSetStart opening
    let s ← readSetItems n ⟨opening, ← place⟩ none first
    return if negated then .not s else s

/-- The items of a class up to its closing bracket, after an operation on the set before it and
those read already. -/
def readSetItems : Nat → Span → Option (SetOperation × CharSet) → CharSet → Reader CharSet
  | 0, opening, _, _ => fail .classUnclosed opening.start opening.stop
  | n + 1, opening, before, s => do
    skipSpace
    let joined := match before with
      | none => s
      | some (operation, t) => operation.apply t s
    match ← peek? with
    | none => fail .classUnclosed opening.start opening.stop
    | some '[' =>
      match ← readNamedSet with
      | some t => readSetItems n opening before (.or s t)
      | none =>
        let t ← readSet n
        readSetItems n opening before (.or s t)
    | some ']' =>
      skip 1
      return joined
    | some _ =>
      match ← acceptOperation with
      | some operation => readSetItems n opening (some (operation, joined)) .none
      | none =>
        let first ← readSetAtom
        skipSpace
        let next ← peek?
        if next.isNone then fail .classUnclosed opening.start opening.stop
        let after ← peekAt? 1
        if next ≠ some '-' || after = some ']' || after = some '-' then
          readSetItems n opening before (.or s (← Atom.item first))
        else
          if !(← bump) then fail .classUnclosed opening.start opening.stop
          let last ← readSetAtom
          let low ← Atom.bound first
          let high ← Atom.bound last
          if high < low then fail .classRange first.2.start last.2.stop
          readSetItems n opening before (.or s (.range low high))

end

/-- One character of a set, under the flags. -/
def oneOf (s : CharSet) : Reader Regex := do
  return .one (if (← get).flags.ignoreCase then s.ignoreCase else s)

/-- The number of a repetition; none where there are no digits. -/
def readCount : Reader (Option Nat) := do
  let blanks := ((← get).pattern.toList.drop (← place)).takeWhile Text.isBlank
  skip blanks.length
  let start ← place
  let digits := ((← get).pattern.toList.drop start).takeWhile Char.isDigit
  skip digits.length
  let stop ← place
  let blanks := ((← get).pattern.toList.drop stop).takeWhile Text.isBlank
  skip blanks.length
  if digits.isEmpty then return none
  match Text.readDigits 0x100000000 0 digits with
  | .ok n => return some n
  | .error _ => fail .decimalInvalid start stop

def readCountOrFail : Reader Nat := do
  match ← readCount with
  | some n => return n
  | none => fail .countEmpty (← place) (← place)

/-- How often something is to be repeated, from the opening brace on. -/
def readCounted : Reader (Nat × Option Nat) := do
  let start ← place
  if !(← bump) then fail .countUnclosed start (← place)
  let least ← readCount
  let here ← place
  let first : Reader Nat := match least with
    | some n => return n
    | none => fail .countEmpty here here
  match ← peek? with
  | none => fail .countUnclosed start (← place)
  | some ',' =>
    if !(← bump) then fail .countUnclosed start (← place)
    let most ← if (← peek?) = some '\x7d' then pure none
      else do
        let _ ← first
        pure (some (← readCountOrFail))
    let least ← first
    if (← peek?) ≠ some '\x7d' then fail .countUnclosed start (← place)
    skip 1
    let _ ← accept "?"
    if most.any (· < least) then fail .countRange start (← place)
    return (least, most)
  | some _ =>
    let least ← first
    if (← peek?) ≠ some '\x7d' then fail .countUnclosed start (← place)
    skip 1
    let _ ← accept "?"
    return (least, some least)

/-- The name of a group up to its closing angle bracket. -/
def readName : Reader Unit := do
  let r ← get
  let start := r.place
  let name := (r.pattern.toList.drop start).takeWhile (· ≠ '>')
  let isStart (c : Char) : Bool := c = '_' || (Text.isWordChar c && !Text.isDecimalDigit c)
  let isPart (c : Char) : Bool := Text.isWordChar c || c = '.' || c = '[' || c = ']'
  let fine := (name.take 1).takeWhile isStart ++
    if name.head?.any isStart then (name.drop 1).takeWhile isPart else []
  let stop := start + name.length
  if fine.length < name.length then
    fail .nameInvalid (start + fine.length) (start + fine.length + 1)
  if r.pattern.size ≤ stop then fail .nameEnd stop stop
  if name.isEmpty then fail .nameEmpty start start
  match r.names.lookup name with
  | some other => throw ⟨.nameDuplicate, ⟨start, stop⟩, some other⟩
  | none => set { r with place := stop + 1, names := (name, ⟨start, stop⟩) :: r.names }

/-- Sets flags up to a colon or closing parenthesis, and says whether there are any. `seen` holds
the flags read already with their places. -/
def readFlags : Nat → List (Char × Nat) → Reader Bool
  | 0, _ => do fail .flagEnd (← place) (← place)
  | n + 1, seen => do
    let here ← place
    match ← peek? with
    | none => fail .flagEnd here here
    | some c =>
      if c = ':' || c = ')' then
        match seen with
        | ('-', at_) :: _ => fail .flagDanglingNegation at_ (at_ + 1)
        | _ => return !seen.isEmpty
      let on := !seen.any (·.1 = '-')
      match c with
      | '-' | 'u' | 'U' => pure ()
      | 'i' => modify fun r => { r with flags := { r.flags with ignoreCase := on } }
      | 'm' => modify fun r => { r with flags := { r.flags with multiLine := on } }
      | 's' => modify fun r => { r with flags := { r.flags with dotAll := on } }
      | 'x' => modify fun r => { r with flags := { r.flags with extended := on } }
      | 'R' => modify fun r => { r with flags := { r.flags with crlf := on } }
      | _ => fail .flagUnknown here (here + 1)
      match seen.lookup c with
      | some at_ => throw ⟨if c = '-' then .flagRepeatedNegation else .flagDuplicate,
          ⟨here, here + 1⟩, some ⟨at_, at_ + 1⟩⟩
      | none =>
        skip 1
        if (← peek?).isNone then fail .flagEnd (← place) (← place)
        readFlags n ((c, here) :: seen)

/-- A part that is neither a group nor a class nor a repetition. -/
def readAtom : Reader Regex := do
  let flags := (← get).flags
  match ← peek? with
  | some '\\' =>
    match ← readEscape with
    | .char c => oneOf (.single c)
    | .set s => oneOf s
    | .anchor a => return .anchor a
  | some '.' =>
    skip 1
    return .one (if flags.dotAll then .any else .not (.single '\n'))
  | some '^' =>
    skip 1
    return .anchor (if flags.multiLine then .lineStart else .textStart)
  | some '$' =>
    skip 1
    return .anchor (if flags.multiLine then .lineEnd else .textEnd)
  | some c =>
    skip 1
    oneOf (.single c)
  | none => return .empty

/-- The last part read, which is to be repeated. -/
def takeLast (parts : List (Option Regex)) : Reader (Regex × List (Option Regex)) := do
  match parts with
  | some r :: rest => return (r, rest)
  | _ => fail .nothingToRepeat (← place) (← place)

mutual

/-- Alternatives up to a closing parenthesis or the end. -/
def readAlternatives : Nat → Reader Regex
  | 0 => return .empty
  | n + 1 => do
    let first ← readParts n []
    if ← accept "|" then return .alt first (← readAlternatives n) else return first

/-- Parts one after the other; those read already are given backwards. Settings of flags have a
place among them and match nothing. -/
def readParts : Nat → List (Option Regex) → Reader Regex
  | 0, _ => return .empty
  | n + 1, parts => do
    skipSpace
    let done : Regex := parts.foldl (fun r part => match part with
      | some p => .seq p r
      | none => r) .empty
    let repeated (least : Nat) (most : Option Nat) : Reader Regex := do
      let (r, rest) ← takeLast parts
      skip 1
      let _ ← accept "?"
      readParts n (some (.times r least most) :: rest)
    match ← peek? with
    | none | some '|' | some ')' => return done
    | some '(' => readParts n ((← readGroup n) :: parts)
    | some '[' => readParts n (some (← oneOf (← readSet n)) :: parts)
    | some '*' => repeated 0 none
    | some '+' => repeated 1 none
    | some '?' => repeated 0 (some 1)
    | some '\x7b' =>
      let (r, rest) ← takeLast parts
      let (least, most) ← readCounted
      readParts n (some (.times r least most) :: rest)
    | some _ => readParts n (some (← readAtom) :: parts)

/-- A group from its opening parenthesis on; nothing if it only sets flags. -/
def readGroup : Nat → Reader (Option Regex)
  | 0 => return none
  | n + 1 => do
    let opening ← place
    skip 1
    skipSpace
    for t in ["?=", "?!", "?<=", "?<!"] do
      if ← accept t then fail .lookAround opening (← place)
    let inner ← place
    let flags := (← get).flags
    let close (number : Option Nat) : Reader (Option Regex) := do
      let r ← readAlternatives n
      if !(← accept ")") then fail .groupUnclosed opening (opening + 1)
      modify fun s => { s with flags }
      return some (match number with
        | some number => .group number r
        | none => r)
    let count : Reader Nat := do
      modify fun s => { s with groups := s.groups + 1 }
      return (← get).groups
    if ← accept "?P<" then
      let number ← count
      readName
      close (some number)
    else if ← accept "?<" then
      let number ← count
      readName
      close (some number)
    else if ← accept "?" then
      if (← peek?).isNone then fail .groupUnclosed opening (opening + 1)
      let any ← readFlags (← get).pattern.size []
      if ← accept ")" then
        if !any then fail .nothingToRepeat inner inner
        return none
      skip 1
      close none
    else close (some (← count))

end

/-- The expression that a text stands for. -/
def ofText (pattern : List Char) : Except Fault Regex :=
  let start : Reading := ⟨pattern.toArray, 0, {}, 0, []⟩
  let all : Reader Regex := do
    let r ← readAlternatives (4 * (pattern.length + 1))
    if (← peek?).isSome then fail .groupUnopened (← place) ((← place) + 1)
    return r
  (all.run start).map (·.1)

end NodeDiscovery.Regex
