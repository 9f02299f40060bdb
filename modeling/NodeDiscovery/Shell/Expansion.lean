import NodeDiscovery.Shell.Arithmetic
import NodeDiscovery.Shell.Field

/-! Expanding words: parameters, what commands write, and arithmetic. -/
namespace NodeDiscovery.Shell

/-- Where a word stands decides what can become of it. -/
inductive Role
  /-- It becomes fields. -/
  | fields
  /-- It is the value of an assignment. -/
  | value
  /-- It becomes one text. -/
  | text
  /-- It is a text in the script or an arithmetic expression. -/
  | quoted
deriving DecidableEq, Repr

def homeOfUser? (user : Text) : Option Text :=
  (splitLines Files.accounts.toList).1.findSome? fun line =>
    let parts := splitText ':' line
    if parts.head? = some user then parts[5]? else none

/-- Puts a directory in the place of a tilde at the beginning of a text. The tilde and the name of a
user end at a slash, in a list of paths at a colon, and else where the word ends. -/
def expandTilde (home : Option Text) (inList isLast : Bool) (t : Text) : Word :=
  match t with
  | '~' :: rest =>
    let ends (c : Char) : Bool := c = '/' || (inList && c = ':')
    let user := rest.takeWhile (!ends ·)
    let after := rest.dropWhile (!ends ·)
    if after.isEmpty && !isLast then [.text t false]
    else match if user.isEmpty then home else homeOfUser? user with
      | some directory => [.text directory true, .text after false]
      | none => [.text t false]
  | _ => [.text t false]

/-- Puts directories in the place of tildes after the colons of a text. -/
def expandTildes (home : Option Text) (isLast : Bool) (t : Text) : Word :=
  go (splitText ':' t)
where
  go : List Text → Word
    | [] => []
    | [part] => expandTilde home true isLast part
    | part :: rest => expandTilde home true true part ++ .text [':'] false :: go rest

def withHome (home : Option Text) (role : Role) (w : Word) : Word :=
  match role, w with
  | .quoted, w => w
  | .value, w => spread true w
  | _, .text t false :: rest => expandTilde home false rest.isEmpty t ++ rest
  | _, w => w
where
  /-- Goes through a list of paths; only at its beginning a text may begin with a tilde. -/
  spread (first : Bool) : Word → Word
    | [] => []
    | .text t false :: rest =>
      (if first then expandTildes home rest.isEmpty t
      else match t.takeWhile (· ≠ ':'), t.dropWhile (· ≠ ':') with
        | before, ':' :: after =>
          .text (before ++ [':']) false :: expandTildes home rest.isEmpty after
        | _, _ => [.text t false]) ++ spread false rest
    | p :: rest => p :: spread false rest

/-- All parameters with something between them: a null byte where they become fields of their
own. -/
def joinParameters (s : Session) (name : Text) (role : Role) (quoted : Bool) : Text :=
  let first := match s.value? "IFS".toList with
    | some ifs => ifs.take 1
    | none => [' ']
  let isSet := (s.value? "IFS".toList).isSome
  let between : Text :=
    if role ≠ .fields then first
    else if quoted then if name = ['@'] then ['\x00'] else first
    else if isSet then ['\x00'] else [' ']
  between.intercalate s.positional

def optionLetters (s : Session) : Text :=
  "ubaCEVvxsnmiIfe".toList.filter s.options.contains

def parameter? (s : Session) (name : Text) : Option Text :=
  match name with
  | ['?'] => some (textOfNat s.status)
  | ['#'] => some (textOfNat s.positional.length)
  | ['$'] => some (textOfNat s.root)
  | ['!'] => s.latestJob.map textOfNat
  | ['-'] => some (optionLetters s)
  | _ =>
    match natural? name with
    | some 0 => some s.name
    | some n => s.positional[n - 1]?
    | none => s.value? name

/-- The text of an arithmetic expression's value. What it assigns is assigned. -/
def evaluate (t : Text) : Machine Text := do
  let s ← get
  match Arithmetic.evaluate s.value? t with
  | .error .overflow =>
    let me ← Machine.ask .identify
    let _ ← Machine.ask (.kill me.process 8)
    throw .exit
  | .error fault => Machine.fail (fault.message t)
  | .ok (n, assigned) =>
    for (name, k) in assigned do Machine.assign name (textOfInt k.toInt)
    return textOfInt n.toInt

/-- What a substitution makes of an output: the line ends at its end and null bytes are dropped. -/
def substituted (output : Text) : Text :=
  ((output.reverse.dropWhile (· = '\n')).reverse).filter (· ≠ '\x00')

def complain {α : Type} (name : Text) (message : Option Text) (evenEmpty : Bool) : Machine α :=
  match message with
  | some message => Machine.fail (name ++ ": ".toList ++ message)
  | none =>
    let addition := if evenEmpty then " or null" else ""
    Machine.fail (name ++ (": parameter not set" ++ addition).toList)

/-- Expands a word. `capture` gives what a command writes, `isInside` says that the word stands in
braces, and the number bounds the nesting. -/
def expand (capture : Command → Machine Text) : Nat → Role → Bool → Word → Machine Expanded
  | 0, _, _, _ | _, _, _, [] => return []
  | n + 1, role, isInside, piece :: rest => do
    let first : Expanded ← match piece with
      | .text t true => pure (t.map (.char · true))
      | .text t false =>
        pure (if isInside then [.region false (t.map (·, false))] else t.map (.char · false))
      | .mark => pure [.mark]
      | .substitution .nothing quoted => pure (.ofValue [] quoted)
      | .substitution body quoted => do
        let before := (← get).status
        let output ← capture body
        modify fun s => { s with substituted := s.status, status := before }
        pure (.ofValue (substituted output) quoted)
      | .arithmetic expression quoted => do
        let e ← expand capture n .quoted false expression
        pure (.ofValue (← evaluate e.text) quoted)
      | .parameter name change word quoted => do
        if change = .bad then Machine.failWith "Bad substitution"
        let s ← get
        let isAll := name = ['@'] || name = ['*']
        let value := if isAll then some (joinParameters s name role quoted) else parameter? s name
        let shown (t : Text) : Expanded :=
          if isAll && quoted && name = ['@'] && role = .fields && !s.positional.isEmpty then
            [.region true (t.map fun c => (c, c ≠ '\x00'))]
          else .ofValue t quoted
        let unchanged : Expanded := shown (value.getD [])
        let isThere (evenEmpty : Bool) : Bool := value.any fun t => !(evenEmpty && t.isEmpty)
        let home := s.value? "HOME".toList
        let inner (role : Role) (isInside : Bool) : Machine Expanded :=
          expand capture n role isInside (withHome home .text word)
        let demand : Machine Unit := do
          if value.isNone && (← Machine.isOn 'u') then complain name none false
        match change with
        | .none | .bad =>
          demand
          pure unchanged
        | .orElse evenEmpty => if isThere evenEmpty then pure unchanged else inner role true
        | .ifSet evenEmpty => if isThere evenEmpty then inner role true else pure []
        | .assign evenEmpty =>
          if isThere evenEmpty then pure unchanged
          else
            let t := (← inner .text false).text
            Machine.assign name t
            pure (.ofValue t quoted)
        | .complain evenEmpty =>
          if isThere evenEmpty then pure unchanged
          else
            let t := (← inner .text false).text
            complain name (if word.isEmpty then none else some t) evenEmpty
        | .length =>
          demand
          pure (.ofValue (textOfNat (value.getD []).length) quoted)
        | .trimStart longest =>
          demand
          if value.isNone then pure []
          else
            let p := (← inner .text false).pattern
            pure (shown (p.trimStart longest (value.getD [])))
        | .trimEnd longest =>
          demand
          if value.isNone then pure []
          else
            let p := (← inner .text false).pattern
            pure (shown (p.trimEnd longest (value.getD [])))
    return first ++ (← expand capture n role isInside rest)

end NodeDiscovery.Shell
