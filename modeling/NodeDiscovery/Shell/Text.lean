/-! Text as programs see it: bytes, with a character below 256 for each. -/
namespace NodeDiscovery.Shell

abbrev Text := List Char

/-- Bytes as the characters that stand for them here. -/
def textOfBytes (bytes : List UInt8) : Text := bytes.map fun b => Char.ofNat b.toNat

def bytesOfText (t : Text) : List UInt8 := t.map fun c => UInt8.ofNat c.toNat

def textLess : Text → Text → Bool
  | _, [] => false
  | [], _ :: _ => true
  | a :: s, b :: t => a < b || (a = b && textLess s t)

def isSpace (c : Char) : Bool := c == ' ' || ('\t' ≤ c && c ≤ '\r')

def isNameStart (c : Char) : Bool := c.isAlpha || c == '_'

def isNamePart (c : Char) : Bool := isNameStart c || c.isDigit

def isName (t : Text) : Bool := t.head?.any isNameStart && t.all isNamePart

/-- The row of a table in which a name is kept. -/
def rowOf (rows : Nat) (name : Text) : Nat :=
  name.foldl (fun n c => n + c.toNat) (16 * (name.head?.map Char.toNat).getD 0) % rows

/-- Things in the order of a table that keeps them by their names. In a row, the order stays. -/
def inRows {α : Type} (rows : Nat) (name : α → Text) (l : List α) : List α :=
  (List.range rows).flatMap fun n => l.filter fun a => rowOf rows (name a) = n

def splitText (stop : Char) : Text → List Text
  | [] => [[]]
  | c :: rest =>
    match splitText stop rest with
    | [] => [[c]]
    | part :: parts => if c = stop then [] :: part :: parts else (c :: part) :: parts

/-- Lines without their ends, and whether the last one has an end. -/
def splitLines (t : Text) : List Text × Bool :=
  let (lines, current) := t.foldl (fun (state : List Text × Text) c =>
    if c = '\n' then (state.2.reverse :: state.1, []) else (state.1, c :: state.2)) ([], [])
  if current.isEmpty then (lines.reverse, true) else ((current.reverse :: lines).reverse, false)

def joinLines (lines : List Text) : Text := lines.flatMap fun line => line ++ ['\n']

end NodeDiscovery.Shell
