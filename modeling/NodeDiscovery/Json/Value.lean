import NodeDiscovery.Text.Numeral

/-! JSON values, as far as a reader of responses tells them apart. -/
namespace NodeDiscovery

/-- A JSON value. Numbers keep their spelling. A text whose escapes name half a surrogate pair has
no characters: it is `none`. Members keep their order, and a name may occur twice. -/
inductive Json
  | null
  | bool (b : Bool)
  | number (literal : String)
  | text (s : Option String)
  | array (elements : List Json)
  | object (members : List (Option String × Json))

namespace Json

def text? : Json → Option String
  | text s => s
  | _ => none

def bool? : Json → Option Bool
  | bool b => some b
  | _ => none

def elements? : Json → Option (List Json)
  | array elements => some elements
  | _ => none

/-- A whole number written in digits alone. -/
def natural? : Json → Option Nat
  | number literal =>
    if literal.toList.all Char.isDigit then some (Text.digitsValue literal.toList) else none
  | _ => none

/-- A natural number that fits into 32 bits. -/
def word32? (j : Json) : Option UInt32 := do
  let n ← j.natural?
  if n < UInt32.size then some (UInt32.ofNat n) else none

/-- A natural number that fits into 64 bits. -/
def word64? (j : Json) : Option UInt64 := do
  let n ← j.natural?
  if n < UInt64.size then some (UInt64.ofNat n) else none

/-- A list whose elements can all be read. -/
def list? {α : Type} (read : Json → Option α) (j : Json) : Option (List α) := do
  (← j.elements?).mapM read

/-- Null for nothing, or a value that can be read. -/
def nullable? {α : Type} (read : Json → Option α) : Json → Option (Option α)
  | null => some none
  | j => (read j).map some

end Json
end NodeDiscovery
