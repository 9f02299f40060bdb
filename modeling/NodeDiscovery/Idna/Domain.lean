import NodeDiscovery.Idna.Joining
import NodeDiscovery.Idna.Punycode
import NodeDiscovery.Text.Lines

/-! Domain names in any script, and their form in ASCII. -/
namespace NodeDiscovery.Idna

/-- What a name may hold. -/
structure Rules where
  /-- The ASCII characters that are refused. -/
  refuses : Char → Bool
  /-- Whether some characters are taken for others, as they once were. -/
  transitional : Bool

def isAscii (cs : List Char) : Bool := cs.all (· ≤ '\x7f')

/-- What labels in Punycode begin with. -/
def codePrefix : List Char := ['x', 'n', '-', '-']

/-- Whether the characters of a label may stand together. -/
def isLabel (label : List Char) : Bool :=
  !label.head?.any isMark && areJoinersAllowed [] label && !label.contains '.' &&
    !codePrefix.isPrefixOf label

/-- The label that is meant. One in Punycode has to hold something to be encoded, in normal form. -/
def decodeLabel? (label : List Char) : Option (List Char) :=
  if codePrefix.isPrefixOf label then do
    let decoded ← Punycode.decode? (label.drop codePrefix.length)
    if !isAscii decoded && decoded.all (fun c => mapChar? false c == some [c]) &&
        normalize decoded == decoded && isLabel decoded then
      some decoded
    else none
  else if isAscii label || isLabel label then some label
  else none

def encodeLabel (label : List Char) : List Char :=
  if isAscii label then label else codePrefix ++ Punycode.encode label

/-- A name in ASCII, in lower case. Labels are read in one direction each if one of them asks for
it. -/
def toAscii? (rules : Rules) (name : List Char) : Option (List Char) := do
  let mapped ← name.mapM (mapChar? rules.transitional)
  let labels := Text.splitAt '.' (normalize mapped.flatten)
  let decoded ← labels.mapM decodeLabel?
  if decoded.any isMixed && !decoded.all isDirected then none
  let ascii := ['.'].intercalate (labels.map encodeLabel)
  if ascii.any rules.refuses then none else some ascii

end NodeDiscovery.Idna
