import NodeDiscovery.Shell.Tool.Streams

/-! Programs that put lines in order, or leave out lines that come again. -/
namespace NodeDiscovery.Shell.Tool

structure Comparison where
  numeric : Bool := false
  version : Bool := false
  general : Bool := false
  ignoresCase : Bool := false
  skipsBlanks : Bool := false
  ofWords : Bool := false
  reverse : Bool := false

namespace Comparison

def set (c : Comparison) : Char → Option Comparison
  | 'n' => some { c with numeric := true }
  | 'V' => some { c with version := true }
  | 'g' => some { c with general := true }
  | 'f' => some { c with ignoresCase := true }
  | 'b' => some { c with skipsBlanks := true }
  | 'd' => some { c with ofWords := true }
  | 'r' => some { c with reverse := true }
  | _ => none

def setAll (c : Comparison) : Text → Option Comparison
  | [] => some c
  | letter :: rest => (c.set letter).bind (setAll · rest)

def isPlain (c : Comparison) : Bool :=
  !(c.numeric || c.version || c.general || c.ignoresCase || c.skipsBlanks || c.ofWords || c.reverse)

end Comparison

def compareTexts (s t : Text) : Ordering :=
  if textLess s t then .lt else if textLess t s then .gt else .eq

def compareInts (a b : Int) : Ordering := if a < b then .lt else if b < a then .gt else .eq

/-- The decimal number at the beginning of a text, in units of its last place. -/
def leadingDecimal (t : Text) : Decimal :=
  let t := t.dropWhile fun c => c = ' ' || c = '\t'
  let (isNegative, digits) := match t with
    | '-' :: rest => (true, rest)
    | rest => (false, rest)
  let whole := digits.takeWhile Char.isDigit
  let part := match digits.drop whole.length with
    | '.' :: rest => rest.takeWhile Char.isDigit
    | _ => []
  let n : Int := valueOfDigits 10 (whole ++ part)
  ⟨if isNegative then -n else n, part.length⟩

def compareDecimals (a b : Decimal) : Ordering :=
  let places := max a.places b.places
  compareInts (a.scale places) (b.scale places)

/-- The rank of a character outside of numbers in a version: the end of the text comes after a
tilde, and letters come before the rest. -/
def versionRank : Option Char → Int
  | none => 0
  | some c =>
    if c.isDigit then 0
    else if c.isAlpha then c.toNat
    else if c = '~' then -1
    else c.toNat + 256

/-- Compares texts with numbers in them; the number bounds their length. -/
def compareVersions : Nat → Text → Text → Ordering
  | 0, _, _ => .eq
  | n + 1, s, t =>
    let isOther (c : Option Char) : Bool := c.any (!·.isDigit)
    if isOther s.head? || isOther t.head? then
      match compareInts (versionRank s.head?) (versionRank t.head?) with
      | .eq => compareVersions n s.tail t.tail
      | order => order
    else if s.isEmpty && t.isEmpty then .eq
    else
      let number (t : Text) : Int := valueOfDigits 10 (t.takeWhile Char.isDigit)
      match compareInts (number s) (number t) with
      | .eq => compareVersions n (s.dropWhile Char.isDigit) (t.dropWhile Char.isDigit)
      | order => order

namespace Comparison

def compare (c : Comparison) (s t : Text) : Ordering :=
  let order :=
    if c.numeric || c.general then compareDecimals (leadingDecimal s) (leadingDecimal t)
    else if c.version then compareVersions (s.length + t.length + 2) s t
    else
      let key (t : Text) : Text :=
        let t := if c.skipsBlanks then t.dropWhile fun c => c = ' ' || c = '\t' else t
        let t := if c.ofWords then t.filter fun c =>
          c = ' ' || c = '\t' || c.isAlpha || c.isDigit else t
        if c.ignoresCase then t.map Char.toUpper else t
      compareTexts (key s) (key t)
  if c.reverse then order.swap else order

end Comparison

/-- Where a key begins or ends: in a field, and there at a character. -/
structure KeyPlace where
  field : Nat
  char : Nat

structure Key where
  first : KeyPlace
  last : Option KeyPlace
  comparison : Comparison

/-- A place in the argument of the option for keys, and the letters after it. -/
def readKeyPlace? (usualChar : Nat) (t : Text) : Option (KeyPlace × Text) :=
  let field := t.takeWhile Char.isDigit
  let rest := t.drop field.length
  if field.isEmpty then none
  else match rest with
    | '.' :: rest =>
      let char := rest.takeWhile Char.isDigit
      if char.isEmpty then none
      else some (⟨valueOfDigits 10 field, valueOfDigits 10 char⟩, rest.drop char.length)
    | rest => some (⟨valueOfDigits 10 field, usualChar⟩, rest)

def readKey? (t : Text) : Option Key := do
  let (first, rest) ← readKeyPlace? 1 t
  let letters := rest.takeWhile (· ≠ ',')
  let comparison ← Comparison.setAll {} letters
  if first.field = 0 || first.char = 0 then none
  match rest.drop letters.length with
  | ',' :: rest =>
    let (last, letters) ← readKeyPlace? 0 rest
    return ⟨first, some last, ← comparison.setAll letters⟩
  | _ => return ⟨first, none, comparison⟩

/-- The fields of a line, each with what separates it from the one before. Without a separator a
field begins with the blanks before it. -/
def sortFields (separator : Option Char) (line : Text) : List Text :=
  match separator with
  | some c => splitText c line
  | none =>
    let isBlank (c : Char) : Bool := c = ' ' || c = '\t'
    (line.foldl (fun (fields : List Text) c =>
      match fields with
      | [] => [[c]]
      | field :: others =>
        if isBlank c && !(field.head?.any isBlank) then [c] :: fields
        else (c :: field) :: others) []).reverse.map List.reverse

def Key.part (k : Key) (separator : Option Char) (line : Text) : Text :=
  let fields := sortFields separator line
  let between : Text := separator.toList
  let width (count : Nat) : Nat :=
    ((fields.take count).flatMap (· ++ between)).length
  let isBlank (c : Char) : Bool := c = ' ' || c = '\t'
  let begin_ :=
    let start := width (k.first.field - 1)
    let skipped := if k.comparison.skipsBlanks then
      ((line.drop start).takeWhile isBlank).length else 0
    start + skipped + (k.first.char - 1)
  let end_ := match k.last with
    | none => line.length
    | some last =>
      if last.char = 0 then width last.field - between.length
      else
        let start := width (last.field - 1)
        let skipped := if k.comparison.skipsBlanks then
          ((line.drop start).takeWhile isBlank).length else 0
        start + skipped + last.char
  (line.take end_).drop begin_

def compareByKeys (separator : Option Char) (s t : Text) : List Key → Ordering
  | [] => .eq
  | k :: rest =>
    match k.comparison.compare (k.part separator s) (k.part separator t) with
    | .eq => compareByKeys separator s t rest
    | order => order

def dropRepeated {α : Type} (same : α → α → Bool) : List α → List α
  | [] => []
  | a :: rest => a :: (rest.foldl (fun (state : α × List α) b =>
      if same state.1 b then state else (b, b :: state.2)) (a, [])).2.reverse

def sort (words : List Text) : Machine Unit := do
  let a ← arguments "sort" 2 ⟨"nVgfbdrusct:k:o:zmCi",
    [("numeric-sort", 'n'), ("version-sort", 'V'), ("general-numeric-sort", 'g'),
      ("ignore-case", 'f'), ("ignore-leading-blanks", 'b'), ("dictionary-order", 'd'),
      ("reverse", 'r'), ("unique", 'u'), ("stable", 's'), ("check", 'c'), ("field-separator", 't'),
      ("key", 'k'), ("output", 'o'), ("merge", 'm')]⟩ true words
  let whole := a.options.foldl (fun c o => (Comparison.set c o.1).getD c) {}
  let separator ← match a.value? 't' with
    | none => pure none
    | some [c] => pure (some c)
    | some ['\\', '0'] => pure (some '\x00')
    | some [] => fail "sort" 2 "empty tab".toList
    | some t => fail "sort" 2 ("multi-character tab ".toList ++ quoted t)
  let keys ← (a.options.filter (·.1 = 'k')).mapM fun o => match readKey? o.2 with
    | some k => pure (if k.comparison.isPlain then { k with comparison := whole } else k)
    | none => fail "sort" 2 ("invalid number at field start: invalid count at start of ".toList ++
        quoted o.2)
  let keys := if keys.isEmpty && !whole.isPlain then [⟨⟨1, 1⟩, none, whole⟩] else keys
  let compare (s t : Text) : Ordering :=
    if keys.isEmpty then compareTexts s t else compareByKeys separator s t keys
  let inFull (s t : Text) : Ordering :=
    match compare s t with
    | .eq =>
      if a.has 's' || a.has 'u' then .eq
      else if whole.reverse then (compareTexts s t).swap else compareTexts s t
    | order => order
  let lines ← inputLines "sort" a.operands
  if (← get).status ≠ 0 then Machine.setStatus 2
  else if a.has 'c' || a.has 'C' then
    let disorder := (lines.zip lines.tail).zipIdx.find? fun p => match inFull p.1.1 p.1.2 with
      | .gt => true
      | .eq => a.has 'u'
      | .lt => false
    match disorder with
    | none => pure ()
    | some ((_, line), index) =>
      if a.has 'c' then
        complain "sort" ((a.operands.headD ['-']) ++ ':' :: textOfNat (index + 2) ++
          ": disorder: ".toList ++ line)
      Machine.setStatus 1
  else
    let lines := lines.mergeSort fun s t => inFull s t ≠ .gt
    let lines := if a.has 'u' then dropRepeated (fun s t => compare s t = .eq) lines else lines
    match a.value? 'o' with
    | none => say (joinLines lines)
    | some name =>
      match ← Machine.ask (.open 11 name .output) with
      | .ok () => Machine.put 11 (joinLines lines)
      | .error e => fail "sort" 2 ("open failed: ".toList ++ name ++ (": " ++ e.message).toList)

def groupLike {α : Type} (same : α → α → Bool) (l : List α) : List (List α) :=
  (l.foldl (fun (groups : List (List α)) a =>
    match groups with
    | (b :: group) :: rest => if same b a then (a :: b :: group) :: rest else [a] :: groups
    | groups => [a] :: groups) []).reverse.map List.reverse

def dropFields : Nat → Text → Text
  | 0, t => t
  | n + 1, t =>
    let isBlank (c : Char) : Bool := c = ' ' || c = '\t'
    dropFields n ((t.dropWhile isBlank).dropWhile (!isBlank ·))

def unique (words : List Text) : Machine Unit := do
  let a ← arguments "uniq" 1 ⟨"cdDuif:s:w:", [("count", 'c'), ("repeated", 'd'), ("unique", 'u'),
    ("ignore-case", 'i'), ("skip-fields", 'f'), ("skip-chars", 's'), ("check-chars", 'w'),
    ("all-repeated", 'D')]⟩ true words
  let number (c : Char) : Option Nat := (a.value? c).bind natural?
  let key (line : Text) : Text :=
    let t := (dropFields ((number 'f').getD 0) line).drop ((number 's').getD 0)
    let t := match number 'w' with
      | some n => t.take n
      | none => t
    if a.has 'i' then t.map Char.toLower else t
  let lines ← inputLines "uniq" (a.operands.take 1)
  for group in groupLike (fun s t => key s = key t) lines do
    let isRepeated := 1 < group.length
    let isShown := (isRepeated || !(a.has 'd' || a.has 'D')) && (!isRepeated || !a.has 'u')
    if isShown then
      if a.has 'D' then say (joinLines group)
      else
        let lead := if a.has 'c' then padLeft 7 (textOfNat group.length) ++ [' '] else []
        sayLine (lead ++ group.headD [])

end NodeDiscovery.Shell.Tool
