import NodeDiscovery.Shell.Tool.Basic

/-! Programs that hand on lines or count them. -/
namespace NodeDiscovery.Shell.Tool

structure Display where
  numbers : Bool
  skipsBlank : Bool
  squeezes : Bool
  marksEnds : Bool
  marksTabs : Bool
  marksOthers : Bool

/-- Where `cat` stands: the number of the line before, how many blank lines are behind, and whether
a line begins. -/
structure DisplayState where
  line : Nat
  blanks : Nat
  atStart : Bool

namespace Display

def isPlain (d : Display) : Bool :=
  !(d.numbers || d.squeezes || d.marksEnds || d.marksTabs || d.marksOthers)

def showChar (d : Display) (c : Char) : Text :=
  if c = '\t' then if d.marksTabs then ['^', 'I'] else [c]
  else if !d.marksOthers then [c]
  else
    let n := c.toNat
    let (lead, n) : Text × Nat := if 128 ≤ n then (['M', '-'], n - 128) else ([], n)
    if n < 32 then lead ++ ['^', Char.ofNat (n + 64)]
    else if n = 127 then lead ++ ['^', '?']
    else lead ++ [Char.ofNat n]

def number (n : Nat) : Text := padLeft 6 (textOfNat n) ++ ['\t']

def push (d : Display) (s : DisplayState) (c : Char) : DisplayState × Text :=
  if c = '\n' then
    if s.atStart then
      let s := { s with blanks := s.blanks + 1 }
      if d.squeezes && 1 < s.blanks then (s, [])
      else
        let (s, lead) := if d.numbers && !d.skipsBlank then
            ({ s with line := s.line + 1 }, number (s.line + 1)) else (s, [])
        (s, lead ++ if d.marksEnds then ['$', '\n'] else ['\n'])
    else ({ s with atStart := true }, if d.marksEnds then ['$', '\n'] else ['\n'])
  else
    let (s, lead) := if s.atStart && d.numbers then
        ({ s with line := s.line + 1 }, number (s.line + 1)) else (s, [])
    ({ s with atStart := false, blanks := 0 }, lead ++ d.showChar c)

/-- Shows a text; the last pieces come first. -/
def showText (d : Display) (s : DisplayState) (t : Text) : DisplayState × Text :=
  let (s, pieces) := t.foldl (fun (s, pieces) c =>
    let (s, piece) := d.push s c
    (s, piece :: pieces)) (s, [])
  (s, pieces.reverse.flatten)

end Display

def showInputs (d : Display) : DisplayState → List Text → Machine Unit
  | _, [] => pure ()
  | s, name :: rest => do
    let s ← if d.isPlain then do
        forInputs "cat" (fun _ descriptor =>
          forParts descriptor none (fun t => do
            say t
            return true) Machine.bound) [name]
        pure s
      else do
        let texts ← readTexts "cat" [name]
        let (s, t) := d.showText s (texts.flatMap Prod.snd)
        say t
        pure s
    showInputs d s rest

def concatenate (words : List Text) : Machine Unit := do
  let a ← arguments "cat" 1 ⟨"AbeEnstTuv",
    [("show-all", 'A'), ("number-nonblank", 'b'), ("show-ends", 'E'), ("number", 'n'),
      ("squeeze-blank", 's'), ("show-tabs", 'T'), ("show-nonprinting", 'v')]⟩ true words
  let has (letters : String) : Bool := letters.toList.any a.has
  let d : Display := ⟨has "bn", has "b", has "s", has "AEe", has "ATt", has "AetTv" && has "Aetv"⟩
  showInputs d ⟨0, 0, true⟩ (if a.operands.isEmpty then [['-']] else a.operands)

structure Extent where
  count : Nat
  ofBytes : Bool
  /-- The count is of what is left out. -/
  isRest : Bool

/-- A count with a letter that multiplies it. -/
def sizedCount? (t : Text) : Option Nat :=
  let digits := t.takeWhile Char.isDigit
  let unit? : Option Nat := match String.ofList (t.drop digits.length) with
    | "" => some 1
    | "b" => some 512
    | "kB" => some 1000
    | "k" | "K" | "KiB" => some 1024
    | "MB" => some 1000000
    | "M" | "MiB" => some 1048576
    | _ => none
  if digits.isEmpty then none else unit?.map (valueOfDigits 10 digits * ·)

/-- The extent that options ask for; one of these signs before the count asks for the rest. -/
def readExtent (tool : String) (sign : Char) (a : Arguments) : Machine Extent := do
  match a.options.reverse.find? fun o => o.1 = 'n' || o.1 = 'c' with
  | none => return ⟨10, false, false⟩
  | some (letter, t) =>
    let ofBytes : Bool := letter = 'c'
    let (isRest, digits) := match t with
      | c :: rest => if c = sign then (true, rest) else if c = '-' || c = '+' then (false, rest)
        else (false, t)
      | [] => (false, [])
    match sizedCount? digits with
    | some count => return ⟨count, ofBytes, isRest⟩
    | none =>
      fail tool 1 (("invalid number of " ++ (if ofBytes then "bytes: " else "lines: ")).toList ++
        quoted t)

/-- An old form of the option that tells how many lines are wanted. -/
def modernCount (words : List Text) : List Text :=
  match words with
  | ('-' :: c :: more) :: rest =>
    if c.isDigit && more.all Char.isDigit then "-n".toList :: (c :: more) :: rest else words
  | words => words

def showName (a : Arguments) (names : List Text) (index : Nat) (name : Text) : Machine Unit := do
  let shows := if a.has 'q' then false else a.has 'v' || 1 < names.length
  if shows then
    let shown := if name = ['-'] then "standard input".toList else name
    say ((if index = 0 then [] else ['\n']) ++ "==> ".toList ++ shown ++ " <==\n".toList)

def extentOptions : Known :=
  ⟨"n:c:qvzf", [("lines", 'n'), ("bytes", 'c'), ("quiet", 'q'), ("silent", 'q'), ("verbose", 'v')]⟩

/-- Hands on some lines, and gives back what was read too much. -/
def passLines (descriptor : Nat) : Nat → Nat → Machine (Option Refusal)
  | 0, _ => return none
  | _, 0 => return none
  | n + 1, count => do
    match ← Machine.ask (.read descriptor (some 8192)) with
    | .error e => return some e
    | .ok [] => return none
    | .ok t =>
      let ends := t.count '\n'
      if ends < count then
        say t
        passLines descriptor n (count - ends)
      else
        let size := (t.foldl (fun (state : Nat × Nat) c =>
          if state.1 = 0 then state
          else (if c = '\n' then state.1 - 1 else state.1, state.2 + 1)) (count, 0)).2
        say (t.take size)
        Machine.ask (.unread descriptor (t.drop size))
        return none

def passBytes (descriptor : Nat) : Nat → Nat → Machine (Option Refusal)
  | 0, _ => return none
  | _, 0 => return none
  | n + 1, count => do
    match ← Machine.ask (.read descriptor (some (min count 8192))) with
    | .error e => return some e
    | .ok [] => return none
    | .ok t =>
      say t
      passBytes descriptor n (count - t.length)

def wholeLines (t : Text) : List Text :=
  let (lines, isComplete) := splitLines t
  if isComplete then lines.map (· ++ ['\n'])
  else lines.dropLast.map (· ++ ['\n']) ++ (lines.getLast?).toList

def beginning (words : List Text) : Machine Unit := do
  let a ← arguments "head" 1 extentOptions true (modernCount words)
  let extent ← readExtent "head" '-' a
  let names := if a.operands.isEmpty then [['-']] else a.operands
  for (name, index) in names.zipIdx do
    let act (name : Text) (descriptor : Nat) : Machine (Option Refusal) := do
      showName a names index name
      if extent.isRest then
        readInput (fun _ t => do
          let units := if extent.ofBytes then t.map fun c => [c] else wholeLines t
          say (units.take (units.length - extent.count)).flatten) name descriptor
      else if extent.ofBytes then passBytes descriptor Machine.bound extent.count
      else passLines descriptor Machine.bound extent.count
    match name with
    | ['-'] =>
      if let some e ← act name 0 then
        complain "head" ("error reading 'standard input': ".toList ++ e.message.toList)
    | _ =>
      match ← Machine.ask (.open 10 name .input) with
      | .error e =>
        complain "head" <|
          "cannot open ".toList ++ quoted name ++ (" for reading: " ++ e.message).toList
      | .ok () =>
        if let some e ← act name 10 then
          complain "head" ("error reading ".toList ++ quoted name ++ (": " ++ e.message).toList)
        Machine.ask (.close 10)

def ending (words : List Text) : Machine Unit := do
  let words := match modernCount words with
    | ('+' :: c :: more) :: rest =>
      if (c :: more).all Char.isDigit then "-n".toList :: ('+' :: c :: more) :: rest else words
    | words => words
  let a ← arguments "tail" 1 extentOptions true words
  let extent ← readExtent "tail" '+' a
  let names := if a.operands.isEmpty then [['-']] else a.operands
  for (name, index) in names.zipIdx do
    let act : Text → Nat → Machine (Option Refusal) := readInput fun _ t => do
      showName a names index name
      let units := if extent.ofBytes then t.map fun c => [c] else wholeLines t
      let gone := if extent.isRest then extent.count - 1 else units.length - extent.count
      say (units.drop gone).flatten
    match name with
    | ['-'] =>
      if let some e ← act name 0 then
        complain "tail" ("error reading 'standard input': ".toList ++ e.message.toList)
    | _ =>
      match ← Machine.ask (.open 10 name .input) with
      | .error e =>
        complain "tail" <|
          "cannot open ".toList ++ quoted name ++ (" for reading: " ++ e.message).toList
      | .ok () =>
        if let some e ← act name 10 then
          complain "tail" ("error reading ".toList ++ quoted name ++ (": " ++ e.message).toList)
        Machine.ask (.close 10)

def backwards (words : List Text) : Machine Unit := do
  let a ← arguments "tac" 1 ⟨"", []⟩ true words
  for (_, t) in ← inputs "tac" a.operands do say (wholeLines t).reverse.flatten

def reversed (words : List Text) : Machine Unit := do
  let a ← arguments "rev" 1 ⟨"", []⟩ true words
  for (_, t) in ← inputs "rev" a.operands do
    let (lines, isComplete) := splitLines t
    let t := joinLines (lines.map List.reverse)
    say (if isComplete then t else t.dropLast)

def numbered (words : List Text) : Machine Unit := do
  let a ← arguments "nl" 1 ⟨"b:w:s:v:i:n:", [("body-numbering", 'b'), ("number-width", 'w'),
    ("number-separator", 's'), ("starting-line-number", 'v'), ("line-increment", 'i')]⟩ true words
  let number (c : Char) (usual : Nat) : Nat := ((a.value? c).bind natural?).getD usual
  let width := number 'w' 6
  let separator := (a.value? 's').getD ['\t']
  let ofAll := a.value? 'b' = some ['a']
  let ofNone := a.value? 'b' = some ['n']
  let lines ← inputLines "nl" a.operands
  let mut n := number 'v' 1
  for line in lines do
    if !ofNone && (ofAll || !line.isEmpty) then
      let shown := match (a.value? 'n').map String.ofList with
        | some "ln" => textOfNat n ++ List.replicate (width - (textOfNat n).length) ' '
        | some "rz" => List.replicate (width - (textOfNat n).length) '0' ++ textOfNat n
        | _ => padLeft width (textOfNat n)
      sayLine (shown ++ separator ++ line)
      n := n + number 'i' 1
    else sayLine (List.replicate (width + separator.length) ' ' ++ line)

structure Counts where
  lines : Nat
  words : Nat
  chars : Nat
  bytes : Nat
  longest : Nat

namespace Counts

def ofText (t : Text) : Counts :=
  let words := (t.foldl (fun (state : Nat × Bool) c =>
    if isSpace c then (state.1, false)
    else if state.2 then state else (state.1 + 1, true)) (0, false)).1
  ⟨t.count '\n', words, t.length, t.length, ((splitLines t).1.map List.length).foldl max 0⟩

def add (a b : Counts) : Counts :=
  ⟨a.lines + b.lines, a.words + b.words, a.chars + b.chars, a.bytes + b.bytes,
    max a.longest b.longest⟩

end Counts

def count (words : List Text) : Machine Unit := do
  let a ← arguments "wc" 1 ⟨"lwcmL", [("lines", 'l'), ("words", 'w'), ("bytes", 'c'),
    ("chars", 'm'), ("max-line-length", 'L')]⟩ true words
  let chosen := if a.options.isEmpty then ['l', 'w', 'c'] else "lwmcL".toList.filter a.has
  let names := if a.operands.isEmpty then [['-']] else a.operands
  let counted := (← inputs "wc" names).map fun input => (input.1, Counts.ofText input.2)
  let total := counted.foldl (fun t c => t.add c.2) ⟨0, 0, 0, 0, 0⟩
  let ofPipe := names.contains ['-']
  let width :=
    if chosen.length = 1 && names.length = 1 then 1
    else max (if ofPipe then 7 else 1) (textOfNat total.bytes).length
  let row (c : Counts) (name : Text) : Text :=
    let columns := chosen.map fun letter => padLeft width (textOfNat (match letter with
      | 'l' => c.lines
      | 'w' => c.words
      | 'm' => c.chars
      | 'c' => c.bytes
      | _ => c.longest))
    [' '].intercalate columns ++ (if name.isEmpty then [] else ' ' :: name)
  for (name, c) in counted do sayLine (row c (if a.operands.isEmpty then [] else name))
  if 1 < names.length then sayLine (row total "total".toList)

def copyTo (words : List Text) : Machine Unit := do
  let a ← arguments "tee" 1 ⟨"aip", [("append", 'a'), ("ignore-interrupts", 'i')]⟩ true words
  let mut descriptors := [1]
  for (name, index) in a.operands.zipIdx do
    let how := if a.has 'a' then Opening.addition else Opening.output
    match ← Machine.ask (.open (10 + index) name how) with
    | .ok () => descriptors := descriptors ++ [10 + index]
    | .error e => complain "tee" (name ++ (": " ++ e.message).toList)
  let targets := descriptors
  let _ ← forParts 0 none (fun t => do
    for descriptor in targets do Machine.put descriptor t
    return true) Machine.bound

/-- Writes the same line for ever; the number bounds how often. -/
def repeatLine (t : Text) : Nat → Machine Unit
  | 0 => pure ()
  | n + 1 => do
    if ← Machine.write 1 t then repeatLine t n

def affirm (words : List Text) : Machine Unit := do
  let a ← arguments "yes" 1 ⟨"", []⟩ true words
  let line := if a.operands.isEmpty then ['y'] else [' '].intercalate a.operands
  let copies := max 1 (8192 / (line.length + 1))
  repeatLine (joinLines (List.replicate copies line)) Machine.bound

/-- A decimal number: its value in units of the last place, and how many places it has. -/
structure Decimal where
  value : Int
  places : Nat

namespace Decimal

def ofText? (t : Text) : Option Decimal :=
  let (isNegative, digits) := match t.dropWhile isSpace with
    | '-' :: rest => (true, rest)
    | '+' :: rest => (false, rest)
    | rest => (false, rest)
  let whole := digits.takeWhile Char.isDigit
  let rest := digits.drop whole.length
  let part := match rest with
    | '.' :: part => part
    | _ => []
  if (whole ++ part).isEmpty || !part.all Char.isDigit || (rest.head?.any (· ≠ '.')) then none
  else
    let n : Int := valueOfDigits 10 (whole ++ part)
    some ⟨if isNegative then -n else n, part.length⟩

def scale (d : Decimal) (places : Nat) : Int := d.value * Int.ofNat (Nat.pow 10 (places - d.places))

/-- The text of a value in units of some place. -/
def text (places : Nat) (value : Int) : Text :=
  let digits := textOfNat value.natAbs
  let digits := List.replicate (places + 1 - digits.length) '0' ++ digits
  let whole := digits.take (digits.length - places)
  let part := digits.drop (digits.length - places)
  (if value < 0 then ['-'] else []) ++ whole ++ if part.isEmpty then [] else '.' :: part

end Decimal

/-- The numbers from one to another; the number bounds how many. -/
def progression (step last : Int) : Nat → Int → List Int
  | 0, _ => []
  | n + 1, k =>
    if (0 < step && last < k) || (step < 0 && k < last) then []
    else k :: progression step last n (k + step)

/-- Writes the numbers from one to another, some at a time, with a text between them and a line end
after the last one. -/
def writeNumbers (shown : Int → Text) (between : Text) (step last : Int) :
    Nat → Bool → Int → Machine Unit
  | 0, _, _ => pure ()
  | n + 1, isFirst, k => do
    let values := progression step last 500 k
    if values.isEmpty then
      if !isFirst then say ['\n']
    else
      let t := between.intercalate (values.map shown)
      if ← Machine.write 1 (if isFirst then t else between ++ t) then
        writeNumbers shown between step last n false (k + step * values.length)

def splitNumbers (words : List Text) : List Text × List Text :=
  let isNumber (w : Text) : Bool := match w with
    | '-' :: c :: _ => c.isDigit || c = '.'
    | _ => false
  (words.takeWhile (!isNumber ·), words.dropWhile (!isNumber ·))

def sequence (words : List Text) : Machine Unit := do
  let (front, back) := splitNumbers words
  let a ← arguments "seq" 1 ⟨"s:wf:", [("separator", 's'), ("equal-width", 'w'), ("format", 'f')]⟩
    false front
  let operands := a.operands ++ back
  let numbers ← operands.mapM fun t => match Decimal.ofText? t with
    | some d => pure d
    | none => misuse "seq" 1 ("invalid floating point argument: ".toList ++ quoted t)
  let one : Decimal := ⟨1, 0⟩
  let (first, step, last) ← match numbers with
    | [last] => pure (one, one, last)
    | [first, last] => pure (first, one, last)
    | [first, step, last] => pure (first, step, last)
    | [] => misuse "seq" 1 "missing operand".toList
    | _ => misuse "seq" 1 ("extra operand ".toList ++ quoted (operands.getD 3 []))
  if step.value = 0 then
    misuse "seq" 1 ("invalid Zero increment value: ".toList ++ quoted (operands.getD 1 []))
  let places := max first.places step.places
  let finest := max places last.places
  let from_ := first.scale finest
  let by_ := step.scale finest
  let to_ := last.scale finest
  let text (k : Int) : Text := Decimal.text places (k / Int.ofNat (Nat.pow 10 (finest - places)))
  let latest := from_ + by_ * ((to_ - from_) / by_)
  let width := if a.has 'w' then max (text from_).length (text latest).length else 0
  let shown (k : Int) : Text :=
    let t := text k
    let zeros := List.replicate (width - t.length) '0'
    match t with
    | '-' :: rest => '-' :: zeros ++ rest
    | t => zeros ++ t
  writeNumbers shown ((a.value? 's').getD ['\n']) by_ to_ Machine.bound true from_

end NodeDiscovery.Shell.Tool
