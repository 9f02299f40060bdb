import NodeDiscovery.Idna.Domain
import NodeDiscovery.Text.Blank
import NodeDiscovery.Text.Numeral
import NodeDiscovery.Text.Numeric

/-! Domain names. -/
namespace NodeDiscovery.Dns
open NodeDiscovery.Text

/-- A domain name: its labels in lower-case ASCII, the topmost last. -/
structure Name where
  labels : List (List Char)
deriving DecidableEq, Repr

namespace Name

/-- How far an escape has been read: not begun, or after its backslash so many octal digits, which
make up a number. -/
inductive Escape
  | none
  | begun
  | digits (count number : Nat)
deriving DecidableEq, Repr

def octal? (c : Char) : Option Nat := if '0' ≤ c && c ≤ '7' then some (digitValue c) else none

/-- Cuts a name at its dots. A backslash takes the next character, or the one that three octal
digits name, into the label. An escape that the end cuts off counts for nothing. -/
def split (label : List Char) (escape : Escape) : List Char → Option (List (List Char))
  | [] => some [label.reverse]
  | c :: rest =>
    match escape with
    | .none =>
      if c = '.' then (split [] .none rest).map (label.reverse :: ·)
      else if c = '\\' then split label .begun rest
      else if isBlank c || c < ' ' || ('\x7f' ≤ c && c < '\xa0') then none
      else split (c :: label) .none rest
    | .begun =>
      if isNumeric c then (octal? c).bind fun d => split label (.digits 1 d) rest
      else split (c :: label) .none rest
    | .digits count number =>
      (octal? c).bind fun d =>
        let number := 8 * number + d
        if count < 2 then split label (.digits (count + 1) number) rest
        else split (Char.ofNat number :: label) .none rest

/-- Whether a character may stand in a label: a dash not at its beginning, a star only there. -/
def isLabelChar (isFirst : Bool) (c : Char) : Bool :=
  c.isAlphanum || c == '_' || c == '.' || c == (if isFirst then '*' else '-')

/-- The rules for labels in any script. -/
def rules : Idna.Rules where
  refuses c := !(c.isAlphanum || c == '-' || c == '.')
  transitional := true

/-- A label in ASCII. One that begins with an underscore is taken as it is. -/
def label? (label : List Char) : Option (List Char) := do
  let label ← if label == ['*'] || label.head? == some '_' then some label
    else Idna.toAscii? rules label
  match label with
  | [] => none
  | c :: rest =>
    if isLabelChar true c && rest.all (isLabelChar false) && rest.length < 63 then
      some (label.map Char.toLower)
    else none

/-- The name that is written so; a dot may end it. -/
def ofText? (s : String) : Option Name := do
  if s = "." then return ⟨[]⟩
  let labels ← split [] .none s.toList
  let labels := if labels.getLast? = some [] then labels.dropLast else labels
  let labels ← labels.mapM label?
  if labels.foldl (fun n l => n + l.length + 1) 0 < 255 then some ⟨labels⟩ else none

/-- The name with its final dot. -/
def text (n : Name) : String := String.ofList (n.labels.flatMap (· ++ ['.']))

/-- Whether the name is that of a domain or lies below it. -/
def isWithin (n : Name) (domain : List String) : Bool :=
  (domain.map String.toList).reverse.isPrefixOf n.labels.reverse

end Name
end NodeDiscovery.Dns
