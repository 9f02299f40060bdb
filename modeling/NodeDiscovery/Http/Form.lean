import NodeDiscovery.Text.Lines
import NodeDiscovery.Text.Numeral
import NodeDiscovery.Text.Utf8

/-! Queries in the encoding of HTML forms: names and values, percent-encoded and joined. -/
namespace NodeDiscovery.Http.Form
open NodeDiscovery.Text

/-- The bytes that stand for themselves. -/
def isPlain (b : UInt8) : Bool :=
  let c := Char.ofNat b.toNat
  c.isAlphanum || c == '*' || c == '-' || c == '.' || c == '_'

def encodeByte (b : UInt8) : List Char :=
  if isPlain b then [Char.ofNat b.toNat]
  else if b = 0x20 then ['+']
  else ['%', hexDigit .upper (b.toNat / 16), hexDigit .upper (b.toNat % 16)]

def encodeText (s : String) : List Char := (Utf8.encode s.toList).flatMap encodeByte

def encodePair (pair : String × String) : List Char :=
  encodeText pair.1 ++ '=' :: encodeText pair.2

/-- The pairs in their order, with ampersands between them. -/
def encode (pairs : List (String × String)) : List Char :=
  ['&'].intercalate (pairs.map encodePair)

/-- The bytes of an encoded text. A percent sign without two digits after it stands for itself. -/
def decodeBytes : List Char → List UInt8
  | [] => []
  | '+' :: rest => 0x20 :: decodeBytes rest
  | '%' :: a :: b :: rest =>
    match hexValue? a, hexValue? b with
    | some high, some low => UInt8.ofNat (16 * high + low) :: decodeBytes rest
    | _, _ => 0x25 :: decodeBytes (a :: b :: rest)
  | c :: rest => Utf8.encodeChar c ++ decodeBytes rest

def decodeText (cs : List Char) : String := String.ofList (Utf8.decode (decodeBytes cs))

/-- A piece without an equals sign is a name with an empty value. -/
def decodePair (piece : List Char) : String × String :=
  (decodeText (before '=' piece), decodeText ((piece.dropWhile (· ≠ '=')).drop 1))

/-- The pairs of a query; empty pieces count for nothing. -/
def decode (query : List Char) : List (String × String) :=
  (splitAt '&' query).filter (· ≠ []) |>.map decodePair

end NodeDiscovery.Http.Form
