import NodeDiscovery.Text.Blank
import NodeDiscovery.Text.Word

/-! Regular expressions, and where they match in a text. -/
namespace NodeDiscovery

/-- A set of characters. -/
inductive CharSet
  | any
  | range (first last : Char)
  | word
  | digit
  | blank
  | not (s : CharSet)
  | or (s t : CharSet)
  | and (s t : CharSet)
deriving DecidableEq, Repr

namespace CharSet

def none : CharSet := not any

def single (c : Char) : CharSet := range c c

def ofChars (cs : List Char) : CharSet := cs.foldl (fun s c => or s (single c)) none

def contains (c : Char) : CharSet → Bool
  | any => true
  | range first last => first ≤ c && c ≤ last
  | word => Text.isWordChar c
  | digit => Text.isDecimalDigit c
  | blank => Text.isBlank c
  | not s => !s.contains c
  | or s t => s.contains c || t.contains c
  | and s t => s.contains c && t.contains c

/-- Also takes the ASCII letters of the other case. -/
def ignoreCase : CharSet → CharSet
  | range first last => or (range first last) (or (fold first last 'a' 'z' Char.toUpper)
      (fold first last 'A' 'Z' Char.toLower))
  | or s t => or s.ignoreCase t.ignoreCase
  | and s t => and s.ignoreCase t.ignoreCase
  | not s => not s.ignoreCase
  | s => s
where
  /-- The part of a range that lies in another one, with its case changed. -/
  fold (first last low high : Char) (change : Char → Char) : CharSet :=
    let first := if first ≤ low then low else first
    let last := if last ≤ high then last else high
    if first ≤ last then range (change first) (change last) else none

end CharSet

/-- A place that takes up no character. -/
inductive Anchor
  | textStart
  | textEnd
  | lineStart
  | lineEnd
  | wordStart
  | wordEnd
  | wordEdge
  | notWordEdge
deriving DecidableEq, Repr

inductive Regex
  | empty
  | one (s : CharSet)
  | anchor (a : Anchor)
  | seq (r s : Regex)
  | alt (r s : Regex)
  /-- At least `least` times, and at most `most` times if there is a bound. -/
  | times (r : Regex) (least : Nat) (most : Option Nat)
  | group (number : Nat) (r : Regex)
  /-- What a group has matched, once more. -/
  | again (number : Nat)
deriving DecidableEq, Repr

namespace Regex

/-- A match under way: the place reached, and the groups matched with their ends. -/
structure Thread where
  place : Nat
  groups : List (Nat × Nat × Nat)
deriving DecidableEq, Repr

/-- Whether a character of a word stands at a place. -/
def isWordAt (text : Array Char) (n : Nat) : Bool := text[n]?.any Text.isWordChar

/-- Whether a character of a word stands before a place. -/
def isWordBefore (text : Array Char) (n : Nat) : Bool := 0 < n && isWordAt text (n - 1)

/-- Whether a place is one of some kind. -/
def isAt (text : Array Char) (n : Nat) : Anchor → Bool
  | .textStart => n = 0
  | .textEnd => n = text.size
  | .lineStart => n = 0 || text[n - 1]? = some '\n'
  | .lineEnd => n = text.size || text[n]? = some '\n'
  | .wordStart => !isWordBefore text n && isWordAt text n
  | .wordEnd => isWordBefore text n && !isWordAt text n
  | .wordEdge => isWordBefore text n != isWordAt text n
  | .notWordEdge => isWordBefore text n == isWordAt text n

/-- Of threads at one place, the first. -/
def distinct (threads : List Thread) : List Thread :=
  (threads.foldl (fun (kept : List Thread) t =>
    if kept.any (·.place = t.place) then kept else t :: kept) []).reverse

/-- Goes on with new threads as long as there are any, at most `n` times. -/
def spread (step : List Thread → List Thread) : Nat → List Thread → List Thread → List Thread
  | 0, known, _ => known
  | n + 1, known, fresh =>
    let next := (distinct (step fresh)).filter fun t => !known.any (·.place = t.place)
    if next.isEmpty then known else spread step n (known ++ next) next

/-- All ways to go on with some threads. -/
def run (text : Array Char) : Regex → List Thread → List Thread
  | empty, threads => threads
  | one s, threads => threads.filterMap fun t =>
    match text[t.place]? with
    | some c => if s.contains c then some { t with place := t.place + 1 } else none
    | none => none
  | anchor a, threads => threads.filter fun t => isAt text t.place a
  | seq r s, threads => run text s (distinct (run text r threads))
  | alt r s, threads => distinct (run text r threads ++ run text s threads)
  | times r least most, threads =>
    let step := run text r
    let start := least.repeat (fun ts => distinct (step ts)) threads
    spread step (match most with
      | none => text.size + 1
      | some most => most - least) start start
  | group number r, threads => threads.flatMap fun t =>
    (run text r [t]).map fun u => { u with groups := (number, t.place, u.place) :: u.groups }
  | again number, threads => threads.filterMap fun t =>
    match t.groups.lookup number with
    | some (start, stop) =>
      let size := stop - start
      if text.extract t.place (t.place + size) = text.extract start stop then
        some { t with place := t.place + size }
      else none
    | none => none

/-- The longest match that begins at a place. -/
def matchAt? (r : Regex) (text : Array Char) (n : Nat) : Option Thread :=
  (run text r [⟨n, []⟩]).foldl (fun best t =>
    if best.all fun b => b.place < t.place then some t else best) none

/-- The first match that begins at one of some places, with its start; of several there, the
longest. -/
def find? (r : Regex) (text : Array Char) (places : List Nat) : Option (Nat × Thread) :=
  places.findSome? fun n => (r.matchAt? text n).map (n, ·)

/-- Whether there is a match anywhere. -/
def occursIn (r : Regex) (text : List Char) : Bool :=
  let text := text.toArray
  !(run text r ((List.range (text.size + 1)).map (⟨·, []⟩))).isEmpty

/-- The expression that matches one text. -/
def literal (cs : List Char) : Regex := cs.foldr (fun c r => seq (one (.single c)) r) empty

end Regex
end NodeDiscovery
