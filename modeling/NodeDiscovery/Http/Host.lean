import NodeDiscovery.Address.V6
import NodeDiscovery.Http.Percent
import NodeDiscovery.Idna.Domain

/-! Hosts of web addresses: names in any script, and internet addresses in all their spellings. -/
namespace NodeDiscovery.Http.Host
open NodeDiscovery.Address (V4 V6)
open NodeDiscovery.Text

inductive Fault
  | empty
  | malformedName
  | malformedV4
  | malformedV6
  /-- A name that is not for the web holds a character that no name may hold. -/
  | forbiddenCharacter
deriving DecidableEq, Repr

/-- The characters that mean something else in an address. -/
def forbidden : List Char :=
  ['\x00', '\t', '\n', '\r', ' ', '#', '/', ':', '<', '>', '?', '@', '[', '\\', ']', '^', '|']

/-- Names on the web hold no control characters either, and no percent signs. -/
def rules : Idna.Rules where
  refuses c := c < ' ' || c = '\x7f' || c = '%' || forbidden.contains c
  transitional := false

/-- Digits of a base, if there are some. -/
def digits? (base : Nat) (cs : List Char) : Option Nat :=
  cs.foldlM (fun n c => do
    let d ← hexValue? c
    if d < base then some (base * n + d) else none) 0

/-- A part of an address of version 4: decimal, octal after a zero, hexadecimal after `0x`. -/
def part? : List Char → Option Nat
  | [] => none
  | '0' :: 'x' :: rest | '0' :: 'X' :: rest => digits? 16 rest
  | '0' :: c :: rest => digits? 8 (c :: rest)
  | cs => digits? 10 cs

/-- The parts between the dots; a dot may end them. -/
def parts (name : List Char) : List (List Char) :=
  let pieces := splitAt '.' name
  if pieces.getLast? = some [] then pieces.dropLast else pieces

/-- Whether a name is meant to be an address of version 4: its last part is a number. -/
def endsInNumber (name : List Char) : Bool :=
  match (parts name).getLast? with
  | none | some [] => false
  | some last => last.all Char.isDigit || (part? last).isSome

/-- The address of up to four parts. The last one fills the bytes that are left. -/
def v4? (name : List Char) : Option V4 := do
  let numbers ← (parts name).mapM part?
  let last ← numbers.getLast?
  let others := numbers.dropLast
  if 3 < others.length || others.any (255 < ·) then none
  else
    let rest := Nat.pow 256 (4 - others.length)
    if rest ≤ last then none
    else
      let n := others.foldl (fun n k => 256 * n + k) 0 * rest + last
      return ⟨UInt8.ofNat (n / 0x1000000), UInt8.ofNat (n / 0x10000), UInt8.ofNat (n / 0x100),
        UInt8.ofNat n⟩

/-- An address of version 6 between brackets. -/
def bracketed (cs : List Char) : Except Fault (List Char) :=
  match (if cs.getLast? = some ']' then V6.ofChars? (cs.drop 1).dropLast else none) with
  | some x => .ok ('[' :: x.hexText.toList ++ [']'])
  | none => .error .malformedV6

/-- The normal form of a host on the web. -/
def normalize (cs : List Char) : Except Fault (List Char) :=
  if cs.head? = some '[' then bracketed cs
  else match Idna.toAscii? rules (Utf8.decode (percentDecode cs)) with
    | none => .error .malformedName
    | some [] => .error .empty
    | some name =>
      if endsInNumber name then
        match v4? name with
        | some x => .ok x.text.toList
        | none => .error .malformedV4
      else .ok name

/-- The normal form of a host elsewhere, of which nothing is known. -/
def normalizeOpaque (cs : List Char) : Except Fault (List Char) :=
  if cs.head? = some '[' then bracketed cs
  else if cs.any forbidden.contains then .error .forbiddenCharacter
  else .ok (encodeChars [] cs)

end NodeDiscovery.Http.Host
