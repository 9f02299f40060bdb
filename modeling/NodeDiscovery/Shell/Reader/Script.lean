import NodeDiscovery.Shell.Reader.Basic

/-! Reading command lines. A bound, which no script reaches, limits how deep things stand in each
other. -/
namespace NodeDiscovery.Shell
open Reader

/-- The change that comes after the name of a parameter in braces. -/
def readChange : Reader Change := do
  let evenEmpty ← accept ':'
  let _ ← peekJoined?
  match ← next? with
  | some '\x7d' => return if evenEmpty then .bad else .none
  | some '-' => return .orElse evenEmpty
  | some '=' => return .assign evenEmpty
  | some '?' => return .complain evenEmpty
  | some '+' => return .ifSet evenEmpty
  | some '#' => if evenEmpty then return .bad else return .trimStart (← accept '#')
  | some '%' => if evenEmpty then return .bad else return .trimEnd (← accept '%')
  | _ => return .bad

/-- The name of a parameter in braces, and what becomes of its value. A number sign may be a name,
or ask for a length. -/
def readBraced (n : Nat) : Reader (Text × Change) := do
  match ← peekJoined? with
  | some '#' =>
    skip
    match ← peekJoined? with
    | some c =>
      if isNamePart c then
        let name ← takeWhile (if c.isDigit then Char.isDigit else isNamePart) n
        return (name, if (← peekJoined?) = some '\x7d' then .length else .bad)
      else
        let s ← get
        skip
        if c ≠ '\x7d' && (← peekJoined?) = some '\x7d' then
          return ([c], if isSpecialName c then .length else .bad)
        set s
        return (['#'], ← readChange)
    | none => return (['#'], .bad)
  | some c =>
    if isNameStart c then return (← takeWhile isNamePart n, ← readChange)
    else if c.isDigit then return (← takeWhile Char.isDigit n, ← readChange)
    else if isSpecialName c then
      skip
      return ([c], ← readChange)
    else
      if c ≠ '\x7d' then skip
      return ([], .bad)
  | none => return ([], .bad)

/-- The sign of a redirection. Without a descriptor of its own it is for one of the first two. -/
def readSign (descriptor : Option Nat) : Reader Sign := do
  if ← accept '>' then
    let descriptor := descriptor.getD 1
    if ← accept '>' then return ⟨.addition, descriptor, false⟩
    else if ← accept '|' then return ⟨.overwriting, descriptor, false⟩
    else if ← accept '&' then return ⟨.duplicate, descriptor, false⟩
    else return ⟨.output, descriptor, false⟩
  else
    skip
    let descriptor := descriptor.getD 0
    if ← accept '<' then
      let dropsTabs ← accept '-'
      return ⟨.document 0, descriptor, dropsTabs⟩
    else if ← accept '&' then return ⟨.duplicate, descriptor, false⟩
    else if ← accept '>' then return ⟨.update, descriptor, false⟩
    else return ⟨.input, descriptor, false⟩

def skipBetween : Nat → Reader Unit
  | 0 => pure ()
  | n + 1 => do
    match ← peekJoined? with
    | some ' ' | some '\t' =>
      skip
      skipBetween n
    | some '#' =>
      modify fun s =>
        let comment := (s.rest.takeWhile (· ≠ '\n')).length
        { s with rest := s.rest.drop comment, left := s.left - comment }
    | _ => pure ()

/-- Drops the aliases that end here. One that ends in a blank lets the next word be one as well. -/
def leaveAliases : Reader Unit := modify fun s =>
  let (inside, ended) := s.inserted.partition fun a => a.left < s.left
  { s with
    inserted := inside
    check := if ended.any (·.endsBlank) then { s.check with aliases := true } else s.check }

/-- Whether the next line is the one that ends a text in the script. -/
def isAtDelimiter (a : Announced) : Reader Bool := do
  let rest := (← get).rest
  return a.delimiter.isPrefixOf rest && ((rest.drop a.delimiter.length).head?.all (· = '\n'))

def skipTabs (a : Announced) : Reader Unit := do
  if a.dropsTabs then
    modify fun s =>
      let tabs := (s.rest.takeWhile (· = '\t')).length
      { s with rest := s.rest.drop tabs, left := s.left - tabs }

/-- The lines of a text in the script in which nothing is expanded. -/
def readRawDocument (a : Announced) : Nat → Reader Text
  | 0 => return []
  | n + 1 => do
    skipTabs a
    if ← isAtDelimiter a then
      let _ ← takeTo? '\n' (n + 1)
      return []
    if (← peek?).isNone then return []
    let s ← get
    match ← takeTo? '\n' (s.left + 1) with
    | some line => return line ++ '\n' :: (← readRawDocument a n)
    | none => return s.rest

/-- How commands are read: those of one line, or those of several lines up to what ends them. -/
inductive ListKind
  | line
  | single
  | mayBeEmpty
deriving DecidableEq, Repr

def endsList : Token → Bool
  | .ended | .closing | .armEnd => true
  | .keyword k => k ∈ ["do", "done", "elif", "else", "esac", "fi", "then", "\x7d"]
  | _ => false

def inBackground : Command → Command
  | .pipeline stages _ => .pipeline stages true
  | .redirected line c redirections => .background line c redirections
  | .simple line assignments words redirections =>
    .background line (.simple line assignments words redirections) []
  | .subshell line body redirections => .background line (.subshell line body redirections) []
  | c => .background 1 c []

mutual

/-- A word, or part of one, up to its end, which stays. -/
def readPieces : Nat → Place → Reader Word
  | 0, place => fail place.missing
  | n + 1, place => do
    match ← peekJoined? with
    | none => if place = .bare then return [] else fail place.missing
    | some c =>
      if place.isEnd c then return []
      let pieces ← readPiece n place c
      let rest ← readPieces n place
      return pieces.foldr joinPiece rest

/-- The next part of a word, which begins with a certain character. -/
def readPiece : Nat → Place → Char → Reader Word
  | 0, place, _ => fail place.missing
  | n + 1, place, c => do
    let quoted := place.isQuoted
    skip
    match c with
    | '\\' =>
      match ← next? with
      | none => return [.text ['\\'] true]
      | some d => return [.text (if place.escapes d then [d] else ['\\', d]) true]
    | '\'' =>
      if quoted then return [.text [c] true]
      match ← takeTo? '\'' ((← get).left + 1) with
      | some t => return [.mark, .text t true, .mark]
      | none => fail "Unterminated quoted string"
    | '\"' =>
      match place with
      | .bare =>
        let pieces ← readPieces n .quotes
        skip
        return quotedWord pieces
      | .braces | .quotedBraces =>
        let pieces ← readPieces n .innerQuotes
        skip
        return quotedWord pieces
      | _ => return [.text [c] true]
    | '\x60' =>
      if (← get).check.isDelimiter then return [.text [c] quoted]
      let s ← get
      match splitBackquoted quoted s.rest with
      | none => fail "EOF in backquote substitution"
      | some (t, rest) =>
        let lines := (s.rest.take (s.left - rest.length)).count '\n'
        set { s with rest := t, left := t.length, line := 1, announced := [], inserted := [] }
        let body ← readList n .mayBeEmpty
        readDocuments n
        modify fun inner => { inner with
          rest
          left := rest.length
          line := s.line + lines
          announced := s.announced
          inserted := s.inserted
          back := none
          check := {} }
        return [.substitution body quoted]
    | '$' => readDollar n place
    | _ => return [.text [c] quoted]

/-- An arithmetic expression up to its end, which is taken. The number says how many parentheses are
open in it. -/
def readArithmetic : Nat → Nat → Reader Word
  | 0, _ => fail "Missing '))'"
  | n + 1, depth => do
    match ← peekJoined? with
    | none => fail "Missing '))'"
    | some '(' =>
      skip
      return joinPiece (.text ['('] true) (← readArithmetic n (depth + 1))
    | some ')' =>
      skip
      if 0 < depth then return joinPiece (.text [')'] true) (← readArithmetic n (depth - 1))
      else if ← accept ')' then return []
      else return joinPiece (.text [')'] true) (← readArithmetic n depth)
    | some c =>
      let pieces ← readPiece n .parentheses c
      return pieces.foldr joinPiece (← readArithmetic n depth)

/-- What a dollar sign, already taken, stands for. -/
def readDollar : Nat → Place → Reader Word
  | 0, place => fail place.missing
  | n + 1, place => do
    let quoted := place.isQuoted
    let literal : Word := [.text ['$'] quoted]
    if (← get).check.isDelimiter then return literal
    match ← peekJoined? with
    | none => return literal
    | some '(' =>
      skip
      if ← accept '(' then
        return [.arithmetic (← readArithmetic n 0) quoted]
      let s ← get
      modify fun s => { s with announced := [] }
      let body ← readList n .mayBeEmpty
      let t ← readToken n
      if !(t matches .closing) then expected t .closing
      let inner ← get
      set { inner with rest := [], left := 0 }
      readDocuments n
      modify fun done => { done with
        rest := inner.rest
        left := inner.left
        announced := s.announced
        back := none
        check := {} }
      return [.substitution body quoted]
    | some '\x7b' =>
      skip
      let (name, change) ← readBraced n
      if change = .none then return [.parameter name .none [] quoted]
      let trims := match change with
        | .trimStart _ | .trimEnd _ => true
        | _ => false
      let word ← readPieces n (place.inside trims)
      skip
      return [.parameter name change word quoted]
    | some c =>
      if isNameStart c then
        return [.parameter (← takeWhile isNamePart (← get).left) .none [] quoted]
      else if c.isDigit || isSpecialName c then
        skip
        return [.parameter [c] .none [] quoted]
      else return literal

def readDocument : Nat → Announced → Reader Word
  | 0, _ => return []
  | n + 1, a => do
    Reader.joinLines (← get).left
    skipTabs a
    if ← isAtDelimiter a then
      let _ ← takeTo? '\n' (n + 1)
      return []
    let line ← readDocumentLine n
    if (← peek?).isNone then return line
    return line.foldr joinPiece (← readDocument n a)

def readDocumentLine : Nat → Reader Word
  | 0 => return []
  | n + 1 => do
    match ← peekJoined? with
    | none => return []
    | some '\n' =>
      skip
      return [.text ['\n'] true]
    | some c =>
      let pieces ← readPiece n .document c
      return pieces.foldr joinPiece (← readDocumentLine n)

/-- The texts in the script that have been announced. They come one after the other. -/
def readDocuments : Nat → Reader Unit
  | 0 => pure ()
  | n + 1 => do
    match (← get).announced with
    | [] => pure ()
    | a :: rest =>
      modify fun s => { s with announced := rest }
      let document ←
        if a.isQuoted then do
          let t ← readRawDocument a ((← get).left + 1)
          pure [Piece.text t true]
        else readDocument n a
      modify fun s => { s with documents := (a.number, document) :: s.documents }
      readDocuments n

def readRawToken : Nat → Reader Token
  | 0 => return .ended
  | n + 1 => do
    if let some t := (← get).back then
      modify fun s => { s with back := none }
      return t
    skipBetween ((← get).left + 1)
    leaveAliases
    match ← peekJoined? with
    | none => return .ended
    | some '\n' =>
      skip
      return .newline
    | some '&' =>
      skip
      return if ← accept '&' then .and else .ampersand
    | some '|' =>
      skip
      return if ← accept '|' then .or else .bar
    | some ';' =>
      skip
      return if ← accept ';' then .armEnd else .semicolon
    | some '(' =>
      skip
      return .opening
    | some ')' =>
      skip
      return .closing
    | some _ =>
      let w ← readPieces n .bare
      let next ← peek?
      if next = some '<' || next = some '>' then
        match w with
        | [] => return .redirection (← readSign none)
        | [.text [d] false] =>
          if d.isDigit then return .redirection (← readSign (some (d.toNat - '0'.toNat)))
        | _ => pure ()
      return .word w

def skipNewlines : Nat → Token → Reader Token
  | 0, t => return t
  | n + 1, t => do
    match t with
    | .newline =>
      readDocuments n
      modify fun s => { s with check := {} }
      skipNewlines n (← readRawToken n)
    | t => return t

def readToken : Nat → Reader Token
  | 0 => return .ended
  | n + 1 => do
    let check := (← get).check
    let t ← readRawToken n
    let t ← if check.newlines then skipNewlines n t else pure t
    let later := (← get).check
    modify fun s => { s with check := {} }
    match t with
    | .word w =>
      match w.plain? with
      | none => return t
      | some name =>
        if (check.keywords || later.keywords) && keywords.contains (String.ofList name) then
          return .keyword (String.ofList name)
        else if check.aliases || later.aliases then
          let s ← get
          match s.aliases.lookup name with
          | some value =>
            if s.inserted.any (·.name = name) then return t
            set { s with
              rest := value ++ s.rest
              left := s.left + value.length
              check
              inserted := ⟨name, s.left,
                value.getLast?.any fun c => c = ' ' || c = '\t'⟩ :: s.inserted }
            readToken n
          | none => return t
        else return t
    | t => return t

/-- What a redirection leads to. A text in the script is announced here. -/
def readRedirection : Nat → Sign → Reader Redirection
  | 0, _ => fail "word unexpected"
  | n + 1, sign => do
    let isDocument := sign.kind matches .document _
    if isDocument then modify fun s => { s with check := { isDelimiter := true } }
    match ← readToken n with
    | .word w =>
      if isDocument then
        let isQuoted := !(w.all fun
          | .text _ quoted => !quoted
          | _ => false)
        let delimiter := w.flatMap fun
          | .text t _ => t
          | _ => []
        let number := (← get).fresh
        modify fun s => { s with
          fresh := number + 1
          announced := s.announced ++ [⟨number, delimiter, sign.dropsTabs, isQuoted⟩] }
        return .mk (.document number) sign.descriptor []
      else return .mk sign.kind sign.descriptor w
    | t => unexpected t

def readRedirections : Nat → Reader (List Redirection)
  | 0 => return []
  | n + 1 => do
    match ← readToken n with
    | .redirection sign =>
      let r ← readRedirection n sign
      return r :: (← readRedirections n)
    | t =>
      putBack t
      return []

/-- The assignments, words and redirections of a command, after those already read, which stand
backwards. Parentheses after a single word make it the name of a function. -/
def readSimple : Nat → Nat → List (Text × Word) → List Word → List Redirection → Reader Command
  | 0, _, _, _, _ => fail "word unexpected"
  | n + 1, line, assignments, words, redirections => do
    if words.isEmpty then look false false true
    match ← readToken n with
    | .word w =>
      match if words.isEmpty then w.assignment? else none with
      | some a => readSimple n line (a :: assignments) words redirections
      | none => readSimple n line assignments (w :: words) redirections
    | .redirection sign =>
      let r ← readRedirection n sign
      readSimple n line assignments words (r :: redirections)
    | t =>
      match t, words with
      | .opening, [w] =>
        if assignments.isEmpty && redirections.isEmpty then
          let t ← readToken n
          if !(t matches .closing) then expected t .closing
          match w.plain? with
          | some name =>
            if !isName name || isSpecialCommand name then
              fail "Bad function name"
            look true true true
            let line := (← get).line
            return .function line name (← readCommand n)
          | none => fail "Bad function name"
      | _, _ => pure ()
      putBack t
      return .simple line assignments.reverse words.reverse redirections.reverse

/-- The words that a loop goes through, and the token after them. -/
def readWords : Nat → Reader (List Word × Token)
  | 0 => return ([], .ended)
  | n + 1 => do
    match ← readToken n with
    | .word w =>
      let (words, t) ← readWords n
      return (w :: words, t)
    | t => return ([], t)

/-- The patterns of an arm from a token on, up to the closing parenthesis. -/
def readPatterns : Nat → Token → Reader (List Word)
  | 0, _ => return []
  | n + 1, t => do
    let pattern : Word := match t with
      | .word w => w
      | .keyword k => [.text k.toList false]
      | _ => []
    match ← readToken n with
    | .bar =>
      let t ← readToken n
      return pattern :: (← readPatterns n t)
    | .closing => return [pattern]
    | t => expected t .closing

def readArms : Nat → Reader (List (List Word × Command))
  | 0 => return []
  | n + 1 => do
    look true true false
    match ← readToken n with
    | .keyword "esac" => return []
    | t =>
      let t ← match t with
        | .opening => readToken n
        | t => pure t
      let patterns ← readPatterns n t
      let body ← readList n .mayBeEmpty
      look true true false
      match ← readToken n with
      | .keyword "esac" => return [(patterns, body)]
      | .armEnd => return (patterns, body) :: (← readArms n)
      | t => expected t .armEnd

def expectKeyword : Nat → String → Reader Unit
  | 0, _ => pure ()
  | n + 1, k => do
    match ← readToken n with
    | .keyword j => if j = k then pure () else expected (.keyword j) (.keyword k)
    | t => expected t (.keyword k)

/-- What follows the condition of a branch, and the branches after it. -/
def readBranches : Nat → Reader Command
  | 0 => fail "word unexpected"
  | n + 1 => do
    let condition ← readList n .single
    expectKeyword n "then"
    let body ← readList n .single
    match ← readToken n with
    | .keyword "elif" => return .ifElse condition body (← readBranches n)
    | .keyword "else" =>
      let otherwise ← readList n .single
      expectKeyword n "fi"
      return .ifElse condition body otherwise
    | .keyword "fi" => return .ifElse condition body .nothing
    | t => expected t (.keyword "fi")

def readFor : Nat → Nat → Reader Command
  | 0, _ => fail "word unexpected"
  | n + 1, line => do
    let name ← match ← readToken n with
      | .word w => pure (w.plain?.getD [])
      | _ => pure []
    if !isName name then fail "Bad for loop variable"
    look true true true
    let words ← match ← readToken n with
      | .keyword "in" =>
        let (words, t) ← readWords n
        match t with
        | .newline | .semicolon => pure words
        | t => unexpected t
      | t =>
        if !(t matches .semicolon) then putBack t
        pure [quotedWord [.parameter ['@'] .none [] true]]
    look true true true
    expectKeyword n "do"
    let body ← readList n .single
    expectKeyword n "done"
    return .for_ line name words body

def readCommand : Nat → Reader Command
  | 0 => fail "word unexpected"
  | n + 1 => do
    let line := (← get).line
    let t ← readToken n
    let redirected (c : Command) : Reader Command := do
      look false true true
      let redirections ← readRedirections n
      return if redirections.isEmpty then c else .redirected line c redirections
    match t with
    | .word _ | .redirection _ =>
      putBack t
      readSimple n (← get).line [] [] []
    | .opening =>
      let body ← readList n .single
      let t ← readToken n
      if !(t matches .closing) then expected t .closing
      look false true true
      return .subshell line body (← readRedirections n)
    | .keyword "if" => redirected (← readBranches n)
    | .keyword "while" =>
      let condition ← readList n .single
      expectKeyword n "do"
      let body ← readList n .single
      expectKeyword n "done"
      redirected (.loop false condition body)
    | .keyword "until" =>
      let condition ← readList n .single
      expectKeyword n "do"
      let body ← readList n .single
      expectKeyword n "done"
      redirected (.loop true condition body)
    | .keyword "for" => redirected (← readFor n line)
    | .keyword "case" =>
      match ← readToken n with
      | .word subject =>
        look true true true
        expectKeyword n "in"
        redirected (.case_ line subject (← readArms n))
      | t => expected t (.word [])
    | .keyword "\x7b" =>
      let body ← readList n .single
      expectKeyword n "\x7d"
      redirected body
    | t => unexpected t

def readStages : Nat → Reader (List Command)
  | 0 => return []
  | n + 1 => do
    match ← readToken n with
    | .bar =>
      look true true true
      let c ← readCommand n
      return c :: (← readStages n)
    | t =>
      putBack t
      return []

def readPipeline : Nat → Reader Command
  | 0 => fail "word unexpected"
  | n + 1 => do
    let t ← readToken n
    let negated := t matches .keyword "!"
    if negated then look false true true else putBack t
    let first ← readCommand n
    let rest ← readStages n
    let c : Command := if rest.isEmpty then first else .pipeline (first :: rest) false
    return if negated then .not c else c

/-- Joins what comes next to the commands read so far. -/
def readAlternatives : Nat → Command → Reader Command
  | 0, _ => fail "word unexpected"
  | n + 1, first => do
    match ← readToken n with
    | .and =>
      look true true true
      readAlternatives n (.and first (← readPipeline n))
    | .or =>
      look true true true
      readAlternatives n (.or first (← readPipeline n))
    | t =>
      putBack t
      return first

/-- Commands one after the other: on one line, or on several up to what ends them. -/
def readList : Nat → ListKind → Reader Command
  | 0, _ => fail "word unexpected"
  | n + 1, kind => readRest n kind none

def readRest : Nat → ListKind → Option Command → Reader Command
  | 0, _, _ => fail "word unexpected"
  | n + 1, kind, sofar => do
    let before : Command := sofar.getD .nothing
    look (kind != .line) true true
    let t ← readToken n
    match t with
    | .newline =>
      readDocuments n
      return before
    | .ended =>
      readDocuments n
      putBack .ended
      return before
    | _ => pure ()
    putBack t
    if (sofar.isSome && kind != .line || kind == .mayBeEmpty) && endsList t then return before
    let c ← readAlternatives n (← readPipeline n)
    let t ← readToken n
    let c : Command := if t matches .ampersand then inBackground c else c
    let all : Command := match sofar with
      | none => c
      | some before => .sequence before c
    match t with
    | .ended =>
      readDocuments n
      putBack .ended
      return all
    | .newline =>
      putBack t
      readRest n kind (some all)
    | .ampersand | .semicolon => readRest n kind (some all)
    | t =>
      if kind == .line then unexpected t
      putBack t
      return all

end

/-- The commands of the next line, unless nothing is left, and whether they are the last ones. -/
def readLine : Reader (Option (Command × Bool)) := do
  modify fun s => { s with back := none, check := {}, announced := [] }
  let n := 1000 * ((← get).left + 100)
  let c ← readList n .line
  let isLast := (← get).back matches some .ended
  if isLast && c matches .nothing then return none else return some (c, isLast)

/-- A text in which parameters are expanded as between quotes. -/
def readQuoted : Reader Word := do
  let s ← get
  readDocument (1000 * (s.left + 100)) ⟨0, ['\x00'], false, false⟩

namespace Reading

def start (t : Text) (aliases : List (Text × Text)) (fresh : Nat) : Reading :=
  ⟨t, t.length, 1, {}, none, [], [], fresh, aliases, []⟩

end Reading
end NodeDiscovery.Shell
