import NodeDiscovery.Regex.Basic
import NodeDiscovery.Shell.Pattern
import NodeDiscovery.Shell.Number

/-! Regular expressions as programs read them, in a basic and in an extended form. In the basic form
most signs need a backslash to have a meaning. -/
namespace NodeDiscovery.Shell

def charSetOfClass (name : String) : CharSet :=
  match charClass? name with
  | some holds => .ofChars (((List.range 256).map Char.ofNat).filter holds)
  | none => .none

/-- An expression under way: what is left to read, and how many groups have begun. -/
structure ExpressionState where
  rest : Text
  groups : Nat
  /-- How many groups are open. -/
  depth : Nat

abbrev ExpressionReader := StateT ExpressionState (Except String)

namespace ExpressionReader

inductive Sign
  | char (c : Char)
  | opening
  | closing
  | bar
  | many
  | some
  | maybe
  | count
  | dot
  | bracket
  | lineStart
  | lineEnd
  | escape (c : Char)
  | ended
deriving DecidableEq, Repr

def signOf (extended : Bool) (t : Text) : Sign × Text :=
  match t with
  | [] => (.ended, [])
  | '\\' :: c :: rest =>
    if extended then
      (if "ntwWsSbB<>123456789".toList.contains c then .escape c else .char c, rest)
    else match c with
      | '(' => (.opening, rest)
      | ')' => (.closing, rest)
      | '|' => (.bar, rest)
      | '+' => (.some, rest)
      | '?' => (.maybe, rest)
      | '\x7b' => (.count, rest)
      | c => (if "ntwWsSbB<>123456789".toList.contains c then .escape c else .char c, rest)
  | '.' :: rest => (.dot, rest)
  | '[' :: rest => (.bracket, rest)
  | '*' :: rest => (.many, rest)
  | '^' :: rest => (.lineStart, rest)
  | '$' :: rest => (.lineEnd, rest)
  | c :: rest =>
    if !extended then (.char c, rest)
    else match c with
      | '(' => (.opening, rest)
      | ')' => (.closing, rest)
      | '|' => (.bar, rest)
      | '+' => (.some, rest)
      | '?' => (.maybe, rest)
      | '\x7b' => (.count, rest)
      | c => (.char c, rest)

def fail {α : Type} (message : String) : ExpressionReader α := throw message

/-- Reads the items of a bracket up to its end; the number bounds their length. -/
def readBracketItems : Nat → Bool → Text → Option (CharSet × Text)
  | 0, _, _ | _, _, [] => none
  | n + 1, isFirst, c :: rest =>
    let more (s : CharSet) (rest : Text) : Option (CharSet × Text) :=
      (readBracketItems n false rest).map fun (t, rest) => (.or s t, rest)
    if c = ']' && !isFirst then some (.none, rest)
    else match c, rest with
      | '[', ':' :: inside =>
        let name := inside.takeWhile Char.isAlpha
        match inside.drop name.length with
        | ':' :: ']' :: after => more (charSetOfClass (String.ofList name)) after
        | _ => more (.single c) rest
      | '[', '.' :: d :: '.' :: ']' :: after | '[', '=' :: d :: '=' :: ']' :: after =>
        more (.single d) after
      | c, '-' :: d :: after =>
        if d = ']' then more (.single c) rest else more (.range c d) after
      | c, _ => more (.single c) rest

def readBracket : ExpressionReader Regex := do
  let s ← get
  let (isNegated, inside) := match s.rest with
    | '^' :: inside => (true, inside)
    | inside => (false, inside)
  match readBracketItems (inside.length + 1) true inside with
  | some (set_, rest) =>
    set { s with rest }
    return .one (if isNegated then .not set_ else set_)
  | none => fail "Unmatched [, [^, [:, [., or [="

def readCount (extended : Bool) : ExpressionReader (Option (Nat × Option Nat)) := do
  let s ← get
  let least := s.rest.takeWhile Char.isDigit
  let rest := s.rest.drop least.length
  let (hasComma, rest) := match rest with
    | ',' :: rest => (true, rest)
    | rest => (false, rest)
  let most := if hasComma then rest.takeWhile Char.isDigit else []
  let rest := rest.drop most.length
  let after := match extended, rest with
    | true, '\x7d' :: after => some after
    | false, '\\' :: '\x7d' :: after => some after
    | _, _ => none
  match after with
  | none => return none
  | some rest =>
    if least.isEmpty && !hasComma then return none
    set { s with rest }
    let least := valueOfDigits 10 least
    if !hasComma then return some (least, some least)
    else if most.isEmpty then return some (least, none)
    else
      let most := valueOfDigits 10 most
      if most < least then fail "Invalid content of \\\x7b\\\x7d"
      return some (least, some most)

def escaped (c : Char) : Regex :=
  let letters : CharSet := .or (charSetOfClass "alnum") (.single '_')
  match c with
  | 'n' => .one (.single '\n')
  | 't' => .one (.single '\t')
  | 'w' => .one letters
  | 'W' => .one (.not letters)
  | 's' => .one (charSetOfClass "space")
  | 'S' => .one (.not (charSetOfClass "space"))
  | 'b' => .anchor .wordEdge
  | 'B' => .anchor .notWordEdge
  | '<' => .anchor .wordStart
  | '>' => .anchor .wordEnd
  | c => .again (c.toNat - '0'.toNat)

def readRepeats (extended : Bool) : Nat → Regex → ExpressionReader Regex
  | 0, r => return r
  | n + 1, r => do
    let s ← get
    let (sign, rest) := signOf extended s.rest
    match sign with
    | .many =>
      set { s with rest }
      readRepeats extended n (.times r 0 none)
    | .some =>
      set { s with rest }
      readRepeats extended n (.times r 1 none)
    | .maybe =>
      set { s with rest }
      readRepeats extended n (.times r 0 (Option.some 1))
    | .count =>
      set { s with rest }
      match ← readCount extended with
      | Option.some (least, most) => readRepeats extended n (.times r least most)
      | none =>
        if extended then
          set s
          return r
        else fail "Invalid preceding regular expression"
    | _ => return r

mutual

def readBranches (extended : Bool) : Nat → ExpressionReader Regex
  | 0 => return .empty
  | n + 1 => do
    let first ← readBranch extended n true
    let s ← get
    match signOf extended s.rest with
    | (.bar, rest) =>
      set { s with rest }
      return .alt first (← readBranches extended n)
    | _ => return first

def readBranch (extended : Bool) : Nat → Bool → ExpressionReader Regex
  | 0, _ => return .empty
  | n + 1, isFirst => do
    let s ← get
    let (sign, rest) := signOf extended s.rest
    let next := (signOf extended rest).1
    let take (r : Regex) : ExpressionReader Regex := do
      set { s with rest }
      pure r
    let repeated (r : Regex) : ExpressionReader Regex := readRepeats extended n r
    let piece : Option Regex ← match sign with
      | .ended | .bar => pure none
      | .closing =>
        if s.depth = 0 then
          if extended then Option.some <$> (take (.one (.single ')')) >>= repeated)
          else fail "Unmatched ) or \\)"
        else pure none
      | .opening =>
        let number := s.groups + 1
        set { s with rest, groups := number, depth := s.depth + 1 }
        let inside ← readBranches extended n
        let after ← get
        match signOf extended after.rest with
        | (.closing, rest) =>
          set { after with rest, depth := s.depth }
          Option.some <$> repeated (.group number inside)
        | _ => fail "Unmatched ( or \\("
      | .lineStart =>
        if extended || isFirst then Option.some <$> take (.anchor .lineStart)
        else Option.some <$> (take (.one (.single '^')) >>= repeated)
      | .lineEnd =>
        if extended || next = .ended || next = .closing || next = .bar then
          Option.some <$> take (.anchor .lineEnd)
        else Option.some <$> (take (.one (.single '$')) >>= repeated)
      | .many =>
        if extended then Option.some <$> take .empty
        else Option.some <$> (take (.one (.single '*')) >>= repeated)
      | .some | .maybe =>
        if extended then Option.some <$> take .empty
        else
          Option.some <$> (take (.one (.single (if sign = .some then '+' else '?'))) >>= repeated)
      | .count =>
        if extended then Option.some <$> (take (.one (.single '\x7b')) >>= repeated)
        else fail "Invalid preceding regular expression"
      | .dot => Option.some <$> (take (.one .any) >>= repeated)
      | .bracket => do
        set { s with rest }
        Option.some <$> (readBracket >>= repeated)
      | .char c => Option.some <$> (take (.one (.single c)) >>= repeated)
      | .escape c =>
        if c.isDigit && s.groups < c.toNat - '0'.toNat then fail "Invalid back reference"
        else Option.some <$> (take (escaped c) >>= repeated)
    match piece with
    | none => return .empty
    | Option.some r =>
      let startsAgain := sign = .lineStart && isFirst && !extended
      return .seq r (← readBranch extended n startsAgain)

end

end ExpressionReader

/-- Reads a regular expression, and says how many groups it has. -/
def readExpression (extended : Bool) (t : Text) : Except String (Regex × Nat) := do
  if t.getLast? = some '\\' && (t.reverse.takeWhile (· = '\\')).length % 2 = 1 then
    .error "Trailing backslash"
  let (r, s) ← (ExpressionReader.readBranches extended (4 * (t.length + 2))).run ⟨t, 0, 0⟩
  return (r, s.groups)

def ignoreLetterCase : Regex → Regex
  | .one s => .one s.ignoreCase
  | .seq r s => .seq (ignoreLetterCase r) (ignoreLetterCase s)
  | .alt r s => .alt (ignoreLetterCase r) (ignoreLetterCase s)
  | .times r least most => .times (ignoreLetterCase r) least most
  | .group number r => .group number (ignoreLetterCase r)
  | r => r

end NodeDiscovery.Shell
