import NodeDiscovery.Http.Form

/-! Percent-encoding in web addresses. -/
namespace NodeDiscovery.Http
open NodeDiscovery.Text

def percentEncode (c : Char) : List Char :=
  (Utf8.encodeChar c).flatMap fun b =>
    ['%', hexDigit .upper (b.toNat / 16), hexDigit .upper (b.toNat % 16)]

/-- Percent-encodes control characters, what is beyond ASCII, and what is in `special`. -/
def encodeChars (special : List Char) (cs : List Char) : List Char :=
  cs.flatMap fun c => if c < ' ' ∨ '~' < c ∨ c ∈ special then percentEncode c else [c]

/-- The bytes of a text. A percent sign without two digits after it stands for itself. -/
def percentDecode : List Char → List UInt8
  | [] => []
  | '%' :: a :: b :: rest =>
    match hexValue? a, hexValue? b with
    | some high, some low => UInt8.ofNat (16 * high + low) :: percentDecode rest
    | _, _ => 0x25 :: percentDecode (a :: b :: rest)
  | c :: rest => Utf8.encodeChar c ++ percentDecode rest

/-- Whether bytes are those of a text. -/
def isUtf8 (bytes : List UInt8) : Bool := Utf8.encode (Utf8.decode bytes) == bytes

end NodeDiscovery.Http
