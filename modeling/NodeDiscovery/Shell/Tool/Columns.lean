import NodeDiscovery.Shell.Escape
import NodeDiscovery.Shell.Pattern
import NodeDiscovery.Shell.Tool.Basic

/-! Programs that take lines apart, put them side by side, or change characters. -/
namespace NodeDiscovery.Shell.Tool

/-- Places from one to another; without an end they go on. -/
structure Span where
  first : Nat
  last : Option Nat

def Span.contains (s : Span) (n : Nat) : Bool := s.first ≤ n && s.last.all (n ≤ ·)

def readSpan? (t : Text) : Option Span :=
  match splitText '-' t with
  | [n] => (natural? n).bind fun n => if n = 0 then none else some ⟨n, some n⟩
  | [[], last] => (natural? last).map fun last => ⟨1, some last⟩
  | [first, []] => (natural? first).bind fun n => if n = 0 then none else some ⟨n, none⟩
  | [first, last] => do
    let first ← natural? first
    let last ← natural? last
    if first = 0 || last < first then none else some ⟨first, some last⟩
  | _ => none

def cut (words : List Text) : Machine Unit := do
  let a ← arguments "cut" 1 ⟨"d:f:c:b:snz\x01\x02:", [("delimiter", 'd'), ("fields", 'f'),
    ("characters", 'c'), ("bytes", 'b'), ("only-delimited", 's'), ("complement", '\x01'),
    ("output-delimiter", '\x02')]⟩ true words
  let (byFields, list) ← match a.options.filter fun o => o.1 = 'f' || o.1 = 'c' || o.1 = 'b' with
    | [(letter, list)] => pure ((letter = 'f' : Bool), list)
    | [] => misuse "cut" 1 "you must specify a list of bytes, characters, or fields".toList
    | _ => misuse "cut" 1 "only one type of list may be specified".toList
  let spans ← (splitText ',' list).mapM fun t =>
    match readSpan? t with
      | some span => pure span
      | none => misuse "cut" 1 ((if byFields then "invalid field value " else
          "invalid byte/character position ").toList ++ quoted t)
  let chosen (n : Nat) : Bool := (spans.any (·.contains n)) != a.has '\x01'
  let delimiter ← match a.value? 'd' with
    | none => pure '\t'
    | some [c] => pure c
    | some _ => misuse "cut" 1 "the delimiter must be a single character".toList
  let between := (a.value? '\x02').getD (if byFields then [delimiter] else [])
  let choose {α : Type} (parts : List α) : List α :=
    (parts.zipIdx 1).filterMap fun p => if chosen p.2 then some p.1 else none
  for line in ← inputLines "cut" a.operands do
    if byFields then
      if line.contains delimiter then
        sayLine (between.intercalate (choose (splitText delimiter line)))
      else if !a.has 's' then sayLine line
    else sayLine (choose line)

/-- The n-th line of each of some texts; nothing once all have ended. -/
def pasteLines (delimiters : Text) : Nat → List (List Text) → List Text
  | 0, _ => []
  | n + 1, columns =>
    if columns.all List.isEmpty then []
    else
      let parts := columns.map (·.headD [])
      let line := (parts.zipIdx).flatMap fun (part, index) =>
        if index = 0 then part
        else (delimiters[(index - 1) % delimiters.length]?).toList ++ part
      line :: pasteLines delimiters n (columns.map List.tail)

def paste (words : List Text) : Machine Unit := do
  let a ← arguments "paste" 1 ⟨"d:sz", [("delimiters", 'd'), ("serial", 's')]⟩ true words
  let delimiters := (unescape ((a.value? 'd').getD ['\t'])).1
  let names := if a.operands.isEmpty then [['-']] else a.operands
  let texts := (← inputs "paste" names).map fun input => (splitLines input.2).1
  if a.has 's' then
    for lines in texts do
      sayLine (lines.zipIdx.flatMap fun (line, index) =>
        if index = 0 then line
        else (delimiters[(index - 1) % delimiters.length]?).toList ++ line)
  else
    let dashes := names.count ['-']
    let columns ←
      if dashes = names.length && 1 < dashes then
        let lines := texts.headD []
        let columns := (List.range dashes).map fun k =>
          (lines.zipIdx.filter fun p => p.2 % dashes = k).map Prod.fst
        pure columns
      else pure texts
    say (joinLines (pasteLines delimiters (1 + columns.flatten.length) columns))

inductive SetItem
  | chars (t : Text)
  | named (name : String)
  /-- As often as needed, or as often as is said. -/
  | again (c : Char) (count : Option Nat)

def charsOfClass (name : String) : Text :=
  match charClass? name with
  | some holds => ((List.range 256).map Char.ofNat).filter holds
  | none => []

/-- The next character of a set, which a backslash may stand before. -/
def readSetChar : Text → Option (Char × Text)
  | [] => none
  | '\\' :: c :: rest =>
    let (d, after) := readEscape (c :: rest)
    if d = '\\' && c ≠ '\\' then some (c, rest) else some (d, after)
  | c :: rest => some (c, rest)

def readSet : Nat → Text → Except Text (List SetItem)
  | 0, _ => .ok []
  | n + 1, t => do
    match t with
    | '[' :: ':' :: rest =>
      let name := rest.takeWhile Char.isAlpha
      match rest.drop name.length with
      | ':' :: ']' :: after =>
        if (charClass? (String.ofList name)).isNone then
          .error ("invalid character class ".toList ++ quoted name)
        return .named (String.ofList name) :: (← readSet n after)
      | _ => return .chars ['['] :: (← readSet n (':' :: rest))
    | '[' :: '=' :: c :: '=' :: ']' :: rest => return .chars [c] :: (← readSet n rest)
    | '[' :: c :: '*' :: rest =>
      let digits := rest.takeWhile Char.isDigit
      match rest.drop digits.length with
      | ']' :: after =>
        let count := if digits.head? = some '0' then valueOfDigits 8 digits
          else valueOfDigits 10 digits
        return .again c (if count = 0 then none else some count) :: (← readSet n after)
      | _ => return .chars ['['] :: (← readSet n (c :: '*' :: rest))
    | t =>
      match readSetChar t with
      | none => return []
      | some (first, rest) =>
        match rest with
        | '-' :: after =>
          match readSetChar after with
          | some (last, after) =>
            if last < first then
              .error ("range-endpoints of '".toList ++ [first, '-', last] ++
                "' are in reverse collating sequence order".toList)
            let chars := (List.range (last.toNat + 1 - first.toNat)).map fun k =>
              Char.ofNat (first.toNat + k)
            return .chars chars :: (← readSet n after)
          | none => return .chars [first] :: (← readSet n rest)
        | rest => return .chars [first] :: (← readSet n rest)

/-- The characters of a part of a set, given how often is as often as needed. -/
def SetItem.characters (needed : Nat) : SetItem → Text
  | .chars t => t
  | .named name => charsOfClass name
  | .again c count => List.replicate (count.getD needed) c

/-- The characters of a set. What is repeated as often as needed makes it as long as another one. -/
def charsOfSet (wanted : Nat) (items : List SetItem) : Text :=
  let known := (items.flatMap (·.characters 0)).length
  items.flatMap (·.characters (wanted - known))

/-- A text in which characters of a set stand only once in a row. -/
def squeeze (holds : Char → Bool) (before : Option Char) (t : Text) : Option Char × Text :=
  let (before, kept) := t.foldl (fun (state : Option Char × Text) c =>
    if state.1 = some c && holds c then state else (some c, c :: state.2)) (before, [])
  (before, kept.reverse)

def translateChar (pairs : List (Char × Char)) (c : Char) : Char := (pairs.lookup c).getD c

def translate (words : List Text) : Machine Unit := do
  let a ← arguments "tr" 1 ⟨"cCdst", [("complement", 'c'), ("delete", 'd'),
    ("squeeze-repeats", 's'), ("truncate-set1", 't')]⟩ false words
  let deletes := a.has 'd'
  let squeezes := a.has 's'
  let needed := if deletes = squeezes then 2 else 1
  let set (t : Text) : Machine (List SetItem) :=
    match readSet (t.length + 1) t with
    | .ok items => pure items
    | .error message => fail "tr" 1 message
  if a.operands.isEmpty then misuse "tr" 1 "missing operand".toList
  if a.operands.length < needed && !(squeezes && a.operands.length = 1 && !deletes) then
    let reason := if deletes then
        "\nTwo strings must be given when both deleting and squeezing repeats."
      else "\nTwo strings must be given when translating."
    misuse "tr" 1 ("missing operand after ".toList ++ quoted (a.operands.headD []) ++ reason.toList)
  if 2 < a.operands.length || (deletes && !squeezes && 1 < a.operands.length) then
    misuse "tr" 1 ("extra operand ".toList ++
      quoted (a.operands.getD (if deletes && !squeezes then 1 else 2) []))
  let first ← set (a.operands.headD [])
  let second ← set (a.operands.getD 1 [])
  let named := charsOfSet 0 first
  let chars := if a.has 'c' || a.has 'C' then
      ((List.range 256).map Char.ofNat).filter (!named.contains ·) else named
  let targets := charsOfSet chars.length second
  let hasTargets := a.operands.length = 2
  if hasTargets && !deletes && targets.isEmpty && !chars.isEmpty && !a.has 't' then
    fail "tr" 1 "when not truncating set1, string2 must be non-empty".toList
  let full := match targets.getLast? with
    | some c => targets ++ List.replicate (chars.length - targets.length) c
    | none => []
  let pairs := ((chars.zip (if a.has 't' then targets else full)).reverse)
  let squeezed := if hasTargets then targets else chars
  let step (before : Option Char) (t : Text) : Option Char × Text :=
    let t :=
      if deletes then t.filter (!chars.contains ·)
      else if hasTargets then t.map (translateChar pairs)
      else t
    if squeezes then squeeze squeezed.contains before t else (none, t)
  let rec go (before : Option Char) : Nat → Machine Unit
    | 0 => pure ()
    | n + 1 => do
      match ← Machine.ask (.read 0 none) with
      | .error e => complain "tr" ("read error: ".toList ++ e.message.toList)
      | .ok [] => pure ()
      | .ok t =>
        let (before, t) := step before t
        say t
        go before n
  go none Machine.bound

end NodeDiscovery.Shell.Tool
