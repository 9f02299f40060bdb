import NodeDiscovery.Address.V4

/-! Internet addresses of version 6. -/
namespace NodeDiscovery.Address

/-- Eight groups of sixteen bits. -/
structure V6 where
  groups : List UInt16
  length_groups : groups.length = 8
deriving DecidableEq

namespace V6

def groupText (g : UInt16) : String := String.ofList (Nat.toDigits 16 g.toNat)

def groupsText (gs : List UInt16) : String := ":".intercalate (gs.map groupText)

/-- The length of the run of zero groups that starts at each group. -/
def zeroRuns : List UInt16 → List Nat
  | [] => []
  | g :: rest =>
    let runs := zeroRuns rest
    (if g = 0 then runs.headD 0 + 1 else 0) :: runs

/-- The start and length of the longest run of zero groups, the first of equals. -/
def longestRun (gs : List UInt16) : Nat × Nat :=
  (zeroRuns gs).zipIdx.foldl (fun best (len, start) => if best.2 < len then (start, len) else best)
    (0, 0)

/-- Hexadecimal groups with colons; two colons stand for the longest run of at least two zero
groups. -/
def hexText (x : V6) : String :=
  let (start, len) := longestRun x.groups
  if len < 2 then groupsText x.groups
  else groupsText (x.groups.take start) ++ "::" ++ groupsText (x.groups.drop (start + len))

/-- The end of an address that embeds one of version 4 is written as that one. -/
def text (x : V6) : String :=
  match x.groups with
  | [0, 0, 0, 0, 0, 0xffff, g, h] =>
    "::ffff:" ++ V4.text ⟨g.toNat / 256 |>.toUInt8, g.toNat.toUInt8, h.toNat / 256 |>.toUInt8,
      h.toNat.toUInt8⟩
  | _ => x.hexText

/-- One to four hexadecimal digits. -/
def group? (cs : List Char) : Option UInt16 :=
  if cs.isEmpty || cs.length > 4 then none
  else do
    let digits ← cs.mapM Text.hexValue?
    return UInt16.ofNat (digits.foldl (fun n d => 16 * n + d) 0)

/-- The groups of pieces between colons; the last piece may be an address of version 4. -/
def groups? : List (List Char) → Option (List UInt16)
  | [] => some []
  | [last] =>
    match V4.ofChars? last with
    | some x => some [UInt16.ofNat (x.a.toNat * 256 + x.b.toNat),
        UInt16.ofNat (x.c.toNat * 256 + x.d.toNat)]
    | none => (group? last).map ([·])
  | piece :: rest => do return (← group? piece) :: (← groups? rest)

/-- Splits a text at its first two adjacent colons. -/
def splitDouble : List Char → Option (List Char × List Char)
  | ':' :: ':' :: rest => some ([], rest)
  | c :: rest => (splitDouble rest).map fun (l, r) => (c :: l, r)
  | [] => none

/-- The groups of one side of the two colons. -/
def side? (cs : List Char) : Option (List UInt16) :=
  if cs.isEmpty then some [] else groups? (Text.splitAt ':' cs)

def ofGroups? (gs : List UInt16) : Option V6 :=
  if h : gs.length = 8 then some ⟨gs, h⟩ else none

/-- The address that is written so. Two colons stand for at least one zero group; an embedded
address of version 4 ends the text. -/
def ofChars? (cs : List Char) : Option V6 :=
  match splitDouble cs with
  | none => (groups? (Text.splitAt ':' cs)).bind ofGroups?
  | some (left, right) => do
    if left.contains '.' then none
    let before ← side? left
    let after ← side? right
    let n := before.length + after.length
    if n < 8 then ofGroups? (before ++ List.replicate (8 - n) 0 ++ after) else none

end V6

/-- An address of either version. -/
inductive Ip
  | v4 (x : V4)
  | v6 (x : V6)
deriving DecidableEq

namespace Ip

def text : Ip → String
  | v4 x => x.text
  | v6 x => x.text

def ofText? (s : String) : Option Ip :=
  (V4.ofText? s).map v4 <|> (V6.ofChars? s.toList).map v6

/-- The address, or what is said about a text that is none. -/
def read (s : String) : Except String Ip :=
  match ofText? s with
  | some x => .ok x
  | none => .error "invalid IP address syntax"

end Ip
end NodeDiscovery.Address
