import NodeDiscovery.Shell.Tool.Expression
import NodeDiscovery.Shell.Tool.Columns

/-! Looking for lines that match, and calculating with arguments. -/
namespace NodeDiscovery.Shell.Tool

/-- Where an expression matches first, from a place on: the start, and the match. -/
def findFrom (r : Regex) (text : Array Char) (place : Nat) : Option (Nat × Regex.Thread) :=
  r.find? text ((List.range (text.size + 1)).drop place)

/-- The parts of a text that match, from a place on; the number bounds how many. -/
def matchesFrom (r : Regex) (text : Array Char) : Nat → Nat → List (Nat × Nat)
  | 0, _ => []
  | n + 1, place =>
    if text.size < place then []
    else match findFrom r text place with
      | none => []
      | some (start, t) =>
        if t.place = start then matchesFrom r text n (start + 1)
        else (start, t.place) :: matchesFrom r text n t.place

def isLetterAt (text : Array Char) (n : Nat) : Bool :=
  text[n]?.any fun c => c.isAlpha || c.isDigit || c = '_'

structure Search where
  expressions : List Regex
  /-- A line has to match as a whole. -/
  ofLines : Bool
  /-- The match has to be made of whole words. -/
  ofWords : Bool

def Search.finds (s : Search) (line : Text) : Bool :=
  let text := line.toArray
  s.expressions.any fun r =>
    if s.ofLines then
      (Regex.run text r [⟨0, []⟩]).any fun t => t.place = text.size
    else if s.ofWords then
      (List.range (text.size + 1)).any fun start =>
        !(0 < start && isLetterAt text (start - 1)) &&
          (Regex.run text r [⟨start, []⟩]).any fun t => !isLetterAt text t.place
    else r.occursIn line

structure Report where
  negated : Bool
  counts : Bool
  quiet : Bool
  onlyParts : Bool
  numbers : Bool
  /-- Only names of inputs with a line found, or of those without one. -/
  onlyNames : Option Bool
  showsNames : Bool
  most : Option Nat
  /-- How many lines around one that is found are shown as well. -/
  before : Nat
  after : Nat

def Report.lines (p : Report) (s : Search) (name : Text) (number : Nat) (isFound : Bool)
    (line : Text) : List Text :=
  let mark : Char := if isFound then ':' else '-'
  let lead := (if p.showsNames then name ++ [mark] else []) ++
    (if p.numbers then textOfNat number ++ [mark] else [])
  if p.onlyParts then
    if !isFound then []
    else
      let text := line.toArray
      s.expressions.flatMap fun r =>
        (matchesFrom r text (text.size + 1) 0).map fun (start, stop) =>
          lead ++ (text.extract start stop).toList
  else [lead ++ line]

/-- The numbers of the lines to show, where some have been found. -/
def surrounding (before after count : Nat) (found : List Nat) : List Nat :=
  (List.range count).filter fun n => found.any fun k => k ≤ n + before && n ≤ k + after

/-- Goes through one input, and says how many lines were found. -/
def searchInput (s : Search) (p : Report) (name t : Text) : Machine Nat := do
  let lines := (splitLines t).1
  let found := (lines.zipIdx.filter fun l => s.finds l.1 != p.negated).map Prod.snd
  let found := match p.most with
    | some n => found.take n
    | none => found
  if !p.quiet then
    if p.counts then
      sayLine ((if p.showsNames then name ++ [':'] else []) ++ textOfNat found.length)
    else match p.onlyNames with
      | some wanted => if wanted = !found.isEmpty then sayLine name
      | none =>
        let isBare := p.before = 0 && p.after = 0
        let shown := if isBare then found
          else surrounding p.before p.after lines.length found
        let mut last : Option Nat := none
        for n in shown do
          if !isBare && last.any (· + 1 < n) then sayLine ['-', '-']
          last := some n
          say (joinLines (p.lines s name (n + 1) (found.contains n) (lines.getD n [])))
  return found.length

/-- Looks for lines; the name of the program says which form its expressions have. -/
def search (tool : Text) (words : List Text) : Machine Unit := do
  let a ← arguments "grep" 2 ⟨"EFGPivwxclLqsnohHe:m:A:B:C:arRIz",
    [("extended-regexp", 'E'), ("fixed-strings", 'F'), ("basic-regexp", 'G'), ("ignore-case", 'i'),
      ("invert-match", 'v'), ("word-regexp", 'w'), ("line-regexp", 'x'), ("count", 'c'),
      ("files-with-matches", 'l'), ("files-without-match", 'L'), ("quiet", 'q'), ("silent", 'q'),
      ("no-messages", 's'), ("line-number", 'n'), ("only-matching", 'o'), ("no-filename", 'h'),
      ("with-filename", 'H'), ("regexp", 'e'), ("max-count", 'm'), ("text", 'a'),
      ("after-context", 'A'), ("before-context", 'B'), ("context", 'C')]⟩ true words
  let given := (a.options.filter (·.1 = 'e')).map Prod.snd
  let (patterns, names) ← match given, a.operands with
    | [], [] => do
      Machine.put 2 "Usage: grep [OPTION]... PATTERNS [FILE]...\n".toList
      Machine.put 2 "Try 'grep --help' for more information.\n".toList
      Machine.setStatus 2
      throw .ended
    | [], pattern :: names => pure ([pattern], names)
    | given, names => pure (given, names)
  let isFixed := a.has 'F' || tool = "fgrep".toList
  let isExtended := a.has 'E' || a.has 'P' || tool = "egrep".toList
  let expressions ← (patterns.flatMap (splitText '\n')).mapM fun t => do
    let r ← if isFixed then pure (Regex.literal t) else match readExpression isExtended t with
      | .ok (r, _) => pure r
      | .error message => fail "grep" 2 message.toList
    pure (if a.has 'i' then ignoreLetterCase r else r)
  let number (c : Char) : Option Nat := (a.value? c).bind natural?
  let s : Search := ⟨expressions, a.has 'x', a.has 'w'⟩
  let p : Report := {
    negated := a.has 'v'
    counts := a.has 'c'
    quiet := a.has 'q'
    onlyParts := a.has 'o' && !a.has 'v'
    numbers := a.has 'n'
    onlyNames := if a.has 'l' then some true else if a.has 'L' then some false else none
    showsNames := a.has 'H' || (1 < names.length && !a.has 'h')
    most := number 'm'
    before := ((number 'B').or (number 'C')).getD 0
    after := ((number 'A').or (number 'C')).getD 0 }
  let readsInput := names.isEmpty || names = [['-']]
  if readsInput && p.quiet && !p.negated then
    -- Stops at the first line that is found.
    let rec quick : Nat → Machine Bool
      | 0 => return false
      | n + 1 => do
        match ← Machine.ask (.readLine 0) with
        | .error _ | .ok [] => return false
        | .ok t =>
          if s.finds (t.filter (· ≠ '\n')) then return true else quick n
    Machine.setStatus (if ← quick Machine.bound then 0 else 1)
  else
    let mut total := 0
    for (name, t) in ← inputs "grep" names do
      let name := if name = ['-'] then "(standard input)".toList else name
      total := total + (← searchInput s p name t)
    let hasFailed := (← get).status ≠ 0
    Machine.setStatus <|
      if hasFailed && !(p.quiet && 0 < total) then 2 else if 0 < total then 0 else 1

/-- A value of `expr`: a text, which may stand for a number. -/
abbrev Value := Text

namespace Value

def number? (v : Value) : Option Int :=
  match v with
  | '-' :: digits => (natural? digits).map fun n => -(n : Int)
  | digits => (natural? digits).map Int.ofNat

def isFalse (v : Value) : Bool :=
  v.isEmpty || (v.head? = some '-' && 1 < v.length && v.tail.all (· = '0')) || v.all (· = '0')

end Value

inductive ExpressionFault
  | missing (after : Text)
  | unexpected (t : Text)
  | notNumber
  | zero
  | expression (message : String)

abbrev Calculator := StateT (List Text) (Except ExpressionFault)

namespace Calculator

def number (v : Value) : Calculator Int :=
  match v.number? with
  | some k => return k
  | none => throw .notNumber

/-- The place where a text is, or the part of it that the first group matches, or how much
matches. -/
def matchPrefix (subject pattern : Text) : Calculator Value := do
  match readExpression false pattern with
  | .error message => throw (.expression message)
  | .ok (r, groups) =>
    match r.matchAt? subject.toArray 0 with
    | none => return if groups = 0 then ['0'] else []
    | some t =>
      if groups = 0 then return textOfNat t.place
      else match t.groups.lookup 1 with
        | some (start, stop) => return (subject.drop start).take (stop - start)
        | none => return []

def compare (op : String) (a b : Value) : Bool :=
  let order : Ordering := match a.number?, b.number? with
    | some x, some y => if x < y then .lt else if y < x then .gt else .eq
    | _, _ => if textLess a b then .lt else if textLess b a then .gt else .eq
  match op with
  | "<" => order = .lt
  | "<=" => order ≠ .gt
  | ">" => order = .gt
  | ">=" => order ≠ .lt
  | "!=" => order ≠ .eq
  | _ => order = .eq

def ofBool (b : Bool) : Value := if b then ['1'] else ['0']

/-- Takes the next word if it is one of some operators. -/
def accept (operators : List String) : Calculator (Option String) := do
  match ← get with
  | t :: rest =>
    if operators.contains (String.ofList t) then
      set rest
      return some (String.ofList t)
    else return none
  | [] => return none

/-- The operators, from those that bind least on. -/
def levels : List (List String) :=
  [["|"], ["&"], ["<", "<=", "=", "==", "!=", ">=", ">"], ["+", "-"], ["*", "/", "%"], [":"]]

def apply (op : String) (a b : Value) : Calculator Value := do
  match op with
  | "|" => return if a.isFalse then (if b.isFalse then ['0'] else b) else a
  | "&" => return if a.isFalse || b.isFalse then ['0'] else a
  | ":" => matchPrefix a b
  | "+" => return textOfInt ((← number a) + (← number b))
  | "-" => return textOfInt ((← number a) - (← number b))
  | "*" => return textOfInt ((← number a) * (← number b))
  | "/" | "%" =>
    let x ← number a
    let y ← number b
    if y = 0 then throw .zero
    return textOfInt (if op = "/" then x.tdiv y else x.tmod y)
  | op => return ofBool (compare op a b)

mutual

def operand : Nat → Calculator Value
  | 0 => throw (.missing [])
  | n + 1 => do
    match ← get with
    | [] => throw (.missing [])
    | t :: rest =>
      set rest
      match String.ofList t with
      | "(" =>
        let v ← chain n 0
        match ← get with
        | [')'] :: rest =>
          set rest
          return v
        | [] => throw (.missing [])
        | t :: _ => throw (.unexpected t)
      | ")" => throw (.unexpected t)
      | "+" =>
        match rest with
        | [] => throw (.missing t)
        | v :: rest =>
          set rest
          return v
      | "length" => return textOfNat (← operand n).length
      | "match" =>
        let subject ← operand n
        matchPrefix subject (← operand n)
      | "index" =>
        let subject ← operand n
        let chars ← operand n
        return textOfNat (((subject.findIdx? chars.contains).map (· + 1)).getD 0)
      | "substr" =>
        let subject ← operand n
        let start := (← operand n).number?.getD 0
        let size := (← operand n).number?.getD 0
        return if start ≤ 0 || size ≤ 0 then []
          else (subject.drop (start.toNat - 1)).take size.toNat
      | _ => return t

def chain : Nat → Nat → Calculator Value
  | 0, _ => throw (.missing [])
  | n + 1, level => do
    match levels[level]? with
    | none => operand n
    | some operators => joinMore n level operators (← chain n (level + 1))

def joinMore : Nat → Nat → List String → Value → Calculator Value
  | 0, _, _, v => return v
  | n + 1, level, operators, v => do
    match ← accept operators with
    | none => return v
    | some op => do
      if (← get).isEmpty then throw (.missing op.toList)
      let w ← chain n (level + 1)
      joinMore n level operators (← apply op v w)

end

end Calculator

/-- Calculates with its arguments. A result that counts as false shows in the status. -/
def calculate (words : List Text) : Machine Unit := do
  let words := if words.head? = some ['-', '-'] then words.tail else words
  if words.isEmpty then misuse "expr" 2 "missing operand".toList
  let whole : Calculator Value := do
    let v ← Calculator.chain (20 * (words.length + 2)) 0
    match ← get with
    | [] => return v
    | t :: _ => throw (.unexpected t)
  match whole.run words with
  | .ok (v, _) =>
    sayLine v
    Machine.setStatus (if v.isFalse then 1 else 0)
  | .error fault =>
    fail "expr" 2 (match fault with
      | .missing _ => "syntax error: missing argument after ".toList ++
        quoted (words.getLast?.getD [])
      | .unexpected t => "syntax error: unexpected argument ".toList ++ quoted t
      | .notNumber => "non-integer argument".toList
      | .zero => "division by zero".toList
      | .expression message => message.toList)

end NodeDiscovery.Shell.Tool
