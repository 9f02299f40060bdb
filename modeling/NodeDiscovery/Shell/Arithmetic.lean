import NodeDiscovery.Shell.Number

/-! Arithmetic expressions of the shell: signed words of 64 bits, which wrap around. An expression
is evaluated while it is read, so that the first fault counts. -/
namespace NodeDiscovery.Shell.Arithmetic

inductive Operator
  | multiply
  | divide
  | remainder
  | add
  | subtract
  | shiftLeft
  | shiftRight
  | less
  | lessEqual
  | greater
  | greaterEqual
  | equal
  | notEqual
  | bitAnd
  | bitXor
  | bitOr
deriving DecidableEq, Repr

/-- Operators of lower rank bind more strongly. -/
def Operator.rank : Operator → Nat
  | multiply | divide | remainder => 0
  | add | subtract => 1
  | shiftLeft | shiftRight => 2
  | less | lessEqual | greater | greaterEqual => 3
  | equal | notEqual => 4
  | bitAnd => 5
  | bitXor => 6
  | bitOr => 7

inductive Token
  | number (n : Int64)
  | name (t : Text)
  | operator (op : Operator)
  /-- Assigns, after an operation with the old value if there is one. -/
  | assign (op : Option Operator)
  | not
  | complement
  | and
  | or
  | question
  | colon
  | opening
  | closing
  | bad
  | ended
deriving DecidableEq, Repr

inductive Fault
  | expected (what : String)
  | divisionByZero
  | badNumber (t : Text)
  /-- The result of a division has no place in a word. -/
  | overflow
deriving DecidableEq, Repr

/-- The signs; one that begins with another comes first. -/
def signs : List (String × Token) :=
  [("<<=", .assign (some .shiftLeft)), (">>=", .assign (some .shiftRight)), ("++", .bad),
    ("--", .bad), ("<<", .operator .shiftLeft), (">>", .operator .shiftRight),
    ("<=", .operator .lessEqual), (">=", .operator .greaterEqual), ("==", .operator .equal),
    ("!=", .operator .notEqual), ("&&", .and), ("||", .or), ("+=", .assign (some .add)),
    ("-=", .assign (some .subtract)), ("*=", .assign (some .multiply)),
    ("/=", .assign (some .divide)), ("%=", .assign (some .remainder)),
    ("&=", .assign (some .bitAnd)), ("^=", .assign (some .bitXor)),
    ("|=", .assign (some .bitOr)), ("<", .operator .less), (">", .operator .greater),
    ("=", .assign none), ("!", .not), ("&", .operator .bitAnd), ("|", .operator .bitOr),
    ("^", .operator .bitXor), ("+", .operator .add), ("-", .operator .subtract),
    ("*", .operator .multiply), ("/", .operator .divide), ("%", .operator .remainder),
    ("~", .complement), ("?", .question), (":", .colon), ("(", .opening), (")", .closing)]

def signTexts : List (Text × Token) := signs.map fun sign => (sign.1.toList, sign.2)

/-- The tokens of a text up to the first that is none; the number bounds their number. -/
def tokens : Nat → Text → List Token
  | 0, _ => [.bad]
  | _, [] => [.ended]
  | n + 1, c :: rest =>
    if c = ' ' || c = '\t' || c = '\n' then tokens n rest
    else if c.isDigit then
      match scanNatural 0 (c :: rest) with
      | some (k, rest) => .number (Int64.ofInt (clampNumber k)) :: tokens n rest
      | none => [.bad]
    else if isNameStart c then
      .name (c :: rest.takeWhile isNamePart) :: tokens n (rest.dropWhile isNamePart)
    else match signTexts.find? fun sign => sign.1.isPrefixOf (c :: rest) with
      | some (_, .bad) | none => [.bad]
      | some (sign, token) => token :: tokens n ((c :: rest).drop sign.length)

def ofBool (b : Bool) : Int64 := if b then 1 else 0

def Operator.apply (op : Operator) (a b : Int64) : Except Fault Int64 :=
  let divided (f : Int64 → Int64 → Int64) : Except Fault Int64 :=
    if b = 0 then .error .divisionByZero
    else if b = -1 && a = Int64.minValue then .error .overflow
    else .ok (f a b)
  match op with
  | multiply => .ok (a * b)
  | divide => divided (· / ·)
  | remainder => divided (· % ·)
  | add => .ok (a + b)
  | subtract => .ok (a - b)
  | shiftLeft => .ok (a <<< b)
  | shiftRight => .ok (a >>> b)
  | less => .ok (ofBool (a < b))
  | lessEqual => .ok (ofBool (a ≤ b))
  | greater => .ok (ofBool (b < a))
  | greaterEqual => .ok (ofBool (b ≤ a))
  | equal => .ok (ofBool (a = b))
  | notEqual => .ok (ofBool (a ≠ b))
  | bitAnd => .ok (a &&& b)
  | bitXor => .ok (a ^^^ b)
  | bitOr => .ok (a ||| b)

structure Progress where
  rest : List Token
  /-- The token after what has been evaluated. -/
  after : Token
  /-- What was assigned, the latest first. -/
  assigned : List (Text × Int64)

abbrev Evaluator := StateT Progress (Except Fault)

def next : Evaluator Token := do
  let s ← get
  match s.rest with
  | [] => return .ended
  | [t] => return t
  | t :: rest =>
    set { s with rest }
    return t

def setAfter (t : Token) : Evaluator Unit := modify fun s => { s with after := t }

/-- The value of a variable; one without a value counts as zero. -/
def lookup (values : Text → Option Text) (name : Text) : Evaluator Int64 := do
  match (← get).assigned.lookup name with
  | some a => return a
  | none =>
    let t := (values name).getD []
    match integer? 0 t with
    | some k => return Int64.ofInt k
    | none => throw (.badNumber t)

section
variable (values : Text → Option Text)

mutual

/-- A value that begins with a token, of which the second one has been read as well. What does not
count is read only. -/
def primary : Nat → Token → Token → Bool → Evaluator Int64
  | 0, _, _, _ => throw (.expected "primary")
  | n + 1, t, second, counts => do
    match t with
    | .opening =>
      let a ← assignment n second counts
      if (← get).after ≠ .closing then throw (.expected "')'")
      setAfter (← next)
      return a
    | .number a =>
      setAfter second
      return a
    | .name v =>
      setAfter second
      if counts then lookup values v else return 0
    | .operator .add => primary n second (← next) counts
    | .operator .subtract => return -(← primary n second (← next) counts)
    | .not => return ofBool ((← primary n second (← next) counts) = 0)
    | .complement => return ~~~(← primary n second (← next) counts)
    | _ => throw (.expected "primary")

/-- Joins to a value an operator and what comes after it, as long as the operators bind more
strongly than a rank. -/
def joinOperators : Nat → Int64 → Operator → Nat → Bool → Evaluator Int64
  | 0, _, _, _, _ => throw (.expected "primary")
  | n + 1, a, op, rank, counts => do
    let t ← next
    let b ← primary n t (← next) counts
    let b ← match (← get).after with
      | .operator op2 =>
        if op2.rank < op.rank then joinOperators n b op2 op.rank counts else pure b
      | _ => pure b
    let a ← if counts then op.apply a b else pure b
    match (← get).after with
    | .operator op2 => if op2.rank < rank then joinOperators n a op2 rank counts else return a
    | _ => return a

def binary : Nat → Token → Token → Bool → Evaluator Int64
  | 0, _, _, _ => throw (.expected "primary")
  | n + 1, t, second, counts => do
    let a ← primary n t second counts
    match (← get).after with
    | .operator op => joinOperators n a op 8 counts
    | _ => return a

def conjunction : Nat → Token → Token → Bool → Evaluator Int64
  | 0, _, _, _ => throw (.expected "primary")
  | n + 1, t, second, counts => do
    let a ← binary n t second counts
    if (← get).after ≠ .and then return a
    let t ← next
    let b ← conjunction n t (← next) (counts && a ≠ 0)
    return ofBool (a ≠ 0 && b ≠ 0)

def disjunction : Nat → Token → Token → Bool → Evaluator Int64
  | 0, _, _, _ => throw (.expected "primary")
  | n + 1, t, second, counts => do
    let a ← conjunction n t second counts
    if (← get).after ≠ .or then return a
    let t ← next
    let b ← disjunction n t (← next) (counts && a = 0)
    return ofBool (a ≠ 0 || b ≠ 0)

def conditional : Nat → Token → Token → Bool → Evaluator Int64
  | 0, _, _, _ => throw (.expected "primary")
  | n + 1, t, second, counts => do
    let a ← disjunction n t second counts
    if (← get).after ≠ .question then return a
    let b ← assignment n (← next) (counts && a ≠ 0)
    if (← get).after ≠ .colon then throw (.expected "':'")
    let t ← next
    let c ← conditional n t (← next) (counts && a = 0)
    return if a ≠ 0 then b else c

def assignment : Nat → Token → Bool → Evaluator Int64
  | 0, _, _ => throw (.expected "primary")
  | n + 1, t, counts => do
    let second ← next
    match t, second with
    | .name v, .assign op =>
      let b ← assignment n (← next) counts
      if !counts then return b
      let b ← match op with
        | none => pure b
        | some op => do
          let a ← lookup values v
          let c ← op.apply a b
          pure c
      modify fun s => { s with assigned := (v, b) :: s.assigned }
      return b
    | _, _ => conditional n t second counts

end

/-- The value of an expression, and what it assigns, from the first to the last. -/
def evaluate (t : Text) : Except Fault (Int64 × List (Text × Int64)) := do
  let tokens := tokens (t.length + 1) t
  let whole : Evaluator Int64 := do
    let a ← assignment values (16 * (tokens.length + 2)) (← next) true
    if (← get).after ≠ .ended then throw (.expected "EOF")
    return a
  let (a, s) ← whole.run ⟨tokens, .ended, []⟩
  return (a, s.assigned.reverse)

end

def Fault.message (expression : Text) : Fault → Text
  | .badNumber t => "Illegal number: ".toList ++ t
  | fault =>
    let reason := match fault with
      | .expected what => "expecting " ++ what
      | _ => "division by zero"
    ("arithmetic expression: " ++ reason ++ ": \"").toList ++ expression ++ ['\"']

end NodeDiscovery.Shell.Arithmetic
