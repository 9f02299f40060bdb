import NodeDiscovery.Shell.Machine

/-! The conditions of `test`. -/
namespace NodeDiscovery.Shell.Condition

inductive Operator
  | unary (c : Char)
  | binary (name : String)
  | not
  | and
  | or
  | opening
  | closing
deriving DecidableEq, Repr

def operator? (t : Text) : Option Operator :=
  match String.ofList t with
  | "!" => some .not
  | "-a" => some .and
  | "-o" => some .or
  | "(" => some .opening
  | ")" => some .closing
  | name =>
    if name ∈ ["=", "!=", "<", ">", "-eq", "-ne", "-ge", "-gt", "-le", "-lt", "-nt", "-ot", "-ef"]
    then some (.binary name)
    else match t with
      | ['-', c] =>
        if c ∈ "rwxefdcbpugkstznhOGLS".toList then some (.unary c) else none
      | _ => none

def isBinary (t : Text) : Bool := (operator? t).any fun op => op matches .binary _

/-- Whether the first of some words is not meant as an operator on one text. -/
def isOperand : List Text → Bool
  | [_] => true
  | [_, _] => false
  | _ :: t :: _ :: _ => isBinary t
  | [] => true

/-- The first of some words: the operator that it is, or else nothing. -/
inductive Token
  | ended
  | operand
  | operator (op : Operator)
deriving DecidableEq, Repr

def tokenOf (words : List Text) : Token :=
  match words with
  | [] => .ended
  | t :: rest =>
    match operator? t with
    | some (.unary c) => if isOperand words then .operand else .operator (.unary c)
    | some .opening => if rest.isEmpty then .operand else .operator .opening
    | some op => .operator op
    | none => .operand

def number (t : Text) : Machine Int :=
  match integer? 10 t with
  | some k => return k
  | none => Machine.fail ("Illegal number: ".toList ++ t)

def look (t : Text) : Machine (Option Look) := Machine.ask (.look t true)

def unary (c : Char) (t : Text) : Machine Bool := do
  let file (holds : Node → Bool) : Machine Bool := return (← look t).any fun f => holds f.node
  match c with
  | 'z' => return t.isEmpty
  | 'n' => return !t.isEmpty
  | 't' =>
    let _ ← number t
    return false
  | 'h' | 'L' =>
    return (← Machine.ask (.look t false)).any fun f => (f.node.content matches .link _)
  | 'd' => file fun node => (node.content matches .directory)
  | 'f' => file fun node => (node.content matches .regular _) || (node.content matches .program)
  | 'c' => file fun node => (node.content matches .device _)
  | 'p' => file fun node => (node.content matches .pipe)
  | 's' => file fun node => match node.content with
    | .regular text => !text.isEmpty
    | .program | .directory => true
    | _ => false
  | 'x' => file fun node =>
    (node.content matches .directory) || node.mode &&& 0o111 ≠ 0
  | 'k' => file fun node => node.mode &&& 0o1000 ≠ 0
  | 'e' | 'r' | 'w' | 'O' | 'G' => file fun _ => true
  | _ => return false

def binary (name : String) (a b : Text) : Machine Bool := do
  let numbers (holds : Int → Int → Bool) : Machine Bool := do
    let x ← number a
    return holds x (← number b)
  let files (holds : Look → Look → Bool) : Machine Bool := do
    match ← look a, ← look b with
    | some f, some g => return holds f g
    | _, _ => return false
  match name with
  | "=" => return a = b
  | "!=" => return a ≠ b
  | "<" => return textLess a b
  | ">" => return textLess b a
  | "-eq" => numbers fun x y => x = y
  | "-ne" => numbers fun x y => x ≠ y
  | "-lt" => numbers fun x y => x < y
  | "-le" => numbers fun x y => x ≤ y
  | "-gt" => numbers fun x y => y < x
  | "-ge" => numbers fun x y => y ≤ x
  | "-nt" => files fun f g => g.node.changed < f.node.changed
  | "-ot" => files fun f g => f.node.changed < g.node.changed
  | _ => files fun f g => f.place = g.place

/-- Evaluates from the first of some words on. What comes out beside the answer begins with the last
word that was used. -/
abbrev Evaluated := Machine (Bool × List Text)

mutual

def primary : Nat → Token → List Text → Evaluated
  | 0, _, words => return (false, words)
  | n + 1, token, words => do
    match token, words with
    | .ended, _ => return (false, words)
    | .operator .opening, _ :: rest =>
      match tokenOf rest with
      | .operator .closing => return (false, rest)
      | inner =>
        let (holds, rest) ← disjunction n inner rest
        match tokenOf rest.tail with
        | .operator .closing => return (holds, rest.tail)
        | _ => Machine.failWith "closing paren expected"
    | .operator (.unary c), _ :: rest =>
      match rest with
      | [] => Machine.fail (['-', c] ++ ": argument expected".toList)
      | t :: _ => return (← unary c t, rest)
    | _, a :: rest =>
      match tokenOf rest, rest with
      | .operator (.binary name), _ :: after =>
        match after with
        | [] => Machine.failWith (name ++ ": argument expected")
        | b :: _ => return (← binary name a b, after)
      | _, _ => return (!a.isEmpty, words)
    | _, [] => return (false, [])

def negation : Nat → Token → List Text → Evaluated
  | 0, _, words => return (false, words)
  | n + 1, token, words => do
    if token = .operator .not then
      let inner := tokenOf words.tail
      let (holds, rest) ← negation n inner (if inner = .ended then words else words.tail)
      return (!holds, rest)
    else primary n token words

def conjunction : Nat → Token → List Text → Evaluated
  | 0, _, words => return (false, words)
  | n + 1, token, words => do
    let (holds, words) ← negation n token words
    if tokenOf words.tail = .operator .and then
      let rest := words.drop 2
      let (others, rest) ← conjunction n (tokenOf rest) rest
      return (holds && others, rest)
    else return (holds, words)

def disjunction : Nat → Token → List Text → Evaluated
  | 0, _, words => return (false, words)
  | n + 1, token, words => do
    let (holds, words) ← conjunction n token words
    if tokenOf words.tail = .operator .or then
      let rest := words.drop 2
      let (others, rest) ← disjunction n (tokenOf rest) rest
      return (holds || others, rest)
    else return (holds, words)

end

/-- Whether some words hold. With three of them an operator in the middle decides; with three or
four, parentheses around them and a word for "not" in front of them count before all else. -/
def holds : Nat → Bool → List Text → Machine Bool
  | 0, _, _ => return false
  | n + 1, negated, words => do
    let whole (token : Token) (words : List Text) : Machine Bool := do
      let (holds, rest) ← disjunction (16 * (words.length + 1)) token words
      match rest with
      | t :: _ :: _ =>
        let lead := if t.isEmpty then [] else t ++ ": ".toList
        Machine.fail (lead ++ "unexpected operator".toList)
      | _ => return holds != negated
    let hasOperator := words.length = 3 && words[1]?.any isBinary
    let isShort := words.length = 3 || words.length = 4
    if words.isEmpty then return false
    else if hasOperator then whole .operand words
    else if isShort && words.head? = some ['('] && words.getLast? = some [')'] then
      let words := (words.drop 1).dropLast
      whole (tokenOf words) words
    else if isShort && words.head? = some ['!'] then holds n true words.tail
    else whole (tokenOf words) words

/-- The command. Under the name of a bracket it has to end with one. -/
def test (name : Text) (arguments : List Text) : Machine Unit := do
  let words ←
    if name = ['['] then
      if (arguments.getLast?.bind List.head?) = some ']' then pure arguments.dropLast
      else Machine.failWith "missing ]"
    else pure arguments
  Machine.setStatus (if ← holds (words.length + 1) false words then 0 else 1)

end NodeDiscovery.Shell.Condition
