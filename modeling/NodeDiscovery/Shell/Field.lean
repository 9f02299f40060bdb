import NodeDiscovery.Shell.Machine
import NodeDiscovery.Shell.Pattern

/-! From the parts of an expanded word to fields, and from these to the names of files. -/
namespace NodeDiscovery.Shell

inductive Fragment
  | char (c : Char) (quoted : Bool)
  /-- Comes from a quote, and keeps an empty field. -/
  | mark
  /-- A text in which separators part fields; in one made of all parameters only null bytes do. -/
  | region (ofParameters : Bool) (t : MarkedText)
deriving DecidableEq, Repr

abbrev Expanded := List Fragment

namespace Expanded

def ofValue (t : Text) (quoted : Bool) : Expanded :=
  if quoted then t.map (.char · true) else [.region false (t.map (·, false))]

def marked (e : Expanded) : MarkedText := e.flatMap fun
  | .char c quoted => [(c, quoted)]
  | .mark => []
  | .region _ t => t

def text (e : Expanded) : Text := e.marked.map Prod.fst

def pattern (e : Expanded) : Pattern := .ofMarked e.marked

/-- A field under way, with its latest character first. -/
structure Field where
  chars : MarkedText
  hasMark : Bool

def Field.isEmpty (f : Field) : Bool := f.chars.isEmpty && !f.hasMark

def Field.push (f : Field) (c : Char × Bool) : Field := { f with chars := c :: f.chars }

structure Splitting where
  /-- The complete fields, the latest first. -/
  fields : List MarkedText
  current : Field
  /-- How many fields may still be begun, if there is a limit; the last one takes the rest. -/
  left : Option Nat
  /-- The last field up to the separators at its end. -/
  cut : Option MarkedText
  /-- Whether blanks have just ended a field. -/
  afterBlank : Bool
  ofParameters : Bool

def splitChar (separators : Text) (afterParameters : Bool) (s : Splitting) (c : Char × Bool) :
    Splitting :=
  let separates := c.1 = '\x00' || (!s.ofParameters && separators.contains c.1)
  let isBlank := separates && c.1 ∈ ['\x00', ' ', '\t', '\n']
  let grown := { s with current := s.current.push c, afterBlank := false }
  if s.left = some 0 then
    if isBlank then
      { s with
        current := s.current.push c
        cut := s.cut.or (some s.current.chars) }
    else { grown with cut := if separates && s.afterBlank then s.cut else none }
  else if s.afterBlank then
    if separates then { s with afterBlank := isBlank } else grown
  else if separates then
    let afterBlank := !(afterParameters || s.ofParameters) && isBlank
    if s.current.isEmpty && afterBlank then s
    else
      let left := s.left.map (· - 1)
      if left = some 0 then
        { s with current := s.current.push c, cut := some s.current.chars, left, afterBlank }
      else { s with
        fields := s.current.chars.reverse :: s.fields
        current := ⟨[], false⟩
        left
        afterBlank }
  else grown

/-- The fields between separators. Blanks in a row separate like one. With a limit, the last field
takes what is left, without the blanks at its end. -/
def split (separators : Text) (limit : Option Nat) (e : Expanded) : List MarkedText :=
  let s := e.foldl (fun s fragment =>
    match fragment with
    | .char c quoted => { s with current := s.current.push (c, quoted) }
    | .mark => { s with current := { s.current with hasMark := true } }
    | .region ofParameters t =>
      let afterParameters := s.ofParameters
      t.foldl (splitChar separators afterParameters) { s with ofParameters, afterBlank := false })
    (⟨[], ⟨[], false⟩, limit, none, false, false⟩ : Splitting)
  let last := (s.cut.getD s.current.chars).reverse
  if last.isEmpty && !s.current.hasMark && !s.ofParameters then s.fields.reverse
  else (last :: s.fields).reverse

end Expanded

/-- The parts of a path in a pattern, between the slashes. -/
def splitSlashes : MarkedText → List MarkedText
  | [] => [[]]
  | c :: rest =>
    if c.1 = '/' then [] :: splitSlashes rest
    else match splitSlashes rest with
      | [] => [[c]]
      | part :: parts => (c :: part) :: parts

def isWild (p : Pattern) : Bool := p.any fun w => !(w matches .char _)

def literalOf (p : Pattern) : Text := p.filterMap fun
  | .char c => some c
  | _ => none

/-- The files whose names begin with one text and go on with parts that match. -/
def matchingFiles (start : Text) : List MarkedText → Machine (List Text)
  | [] => return [start]
  | part :: rest => do
    let p := Pattern.ofMarked part
    if isWild p then
      match ← Machine.ask (.list (if start.isEmpty then ['.'] else start)) with
      | .error _ => return []
      | .ok names =>
        let names := (['.'] :: ['.', '.'] :: names).filter fun name =>
          p.matches name && (name.head? ≠ some '.' || p.head? = some (.char '.'))
        let mut found : List Text := []
        for name in names do
          let file := start ++ name
          if rest.isEmpty then found := found ++ [file]
          else match ← Machine.ask (.look file true) with
            | some ⟨_, ⟨.directory, _, _⟩⟩ =>
              found := found ++ (← matchingFiles (file ++ ['/']) rest)
            | _ => pure ()
        return found
    else
      let file := start ++ literalOf p
      if rest.isEmpty then
        if part.isEmpty then return [file]
        match ← Machine.ask (.look file false) with
        | some _ => return [file]
        | none => return []
      else matchingFiles (file ++ ['/']) rest

/-- The texts that a field stands for: the files that match it, or else itself. -/
def filesOf (field : MarkedText) : Machine (List Text) := do
  let t := field.map Prod.fst
  if (← Machine.isOn 'f') || !(field.any fun c => !c.2 && c.1 ∈ ['*', '?', '[']) then return [t]
  let parts := splitSlashes field
  if !(parts.any fun part => isWild (.ofMarked part)) then return [t]
  match ← matchingFiles [] parts with
  | [] => return [t]
  | files => return files.mergeSort fun a b => !textLess b a

end NodeDiscovery.Shell
