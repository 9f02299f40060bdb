import NodeDiscovery.Text.Lines
import NodeDiscovery.Text.Numeral

/-! Internet addresses of version 4. -/
namespace NodeDiscovery.Address

structure V4 where
  a : UInt8
  b : UInt8
  c : UInt8
  d : UInt8
deriving DecidableEq, Repr

namespace V4

/-- Four decimal numbers with dots between them. -/
def text (x : V4) : String :=
  ".".intercalate ([x.a, x.b, x.c, x.d].map fun n => toString n.toNat)

/-- A number from 0 to 255 without leading zeros. -/
def octet? (digits : List Char) : Option UInt8 :=
  if digits.isEmpty || (digits.head? == some '0' && digits.length != 1) || digits.length > 3 then
    none
  else match Text.readDigits 256 0 digits with
    | .ok n => some (UInt8.ofNat n)
    | .error _ => none

/-- The address that is written so. -/
def ofChars? (cs : List Char) : Option V4 :=
  match Text.splitAt '.' cs with
  | [a, b, c, d] => do return ⟨← octet? a, ← octet? b, ← octet? c, ← octet? d⟩
  | _ => none

def ofText? (s : String) : Option V4 := ofChars? s.toList

/-- The addresses set aside for private networks. -/
def isPrivate (x : V4) : Bool :=
  x.a == 10 || (x.a == 172 && 16 ≤ x.b && x.b < 32) || (x.a == 192 && x.b == 168)

end V4
end NodeDiscovery.Address
