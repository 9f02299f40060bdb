import NodeDiscovery.Text.Numeral

/-! Writing JSON objects of texts, without spaces. -/
namespace NodeDiscovery.Json
open NodeDiscovery.Text (hexDigit)

/-- A character inside quotes: quotes, backslashes and control characters are escaped, nothing
else. -/
def escape (c : Char) : List Char :=
  match c with
  | '\"' => ['\\', '\"']
  | '\\' => ['\\', '\\']
  | '\x08' => ['\\', 'b']
  | '\x0c' => ['\\', 'f']
  | '\n' => ['\\', 'n']
  | '\r' => ['\\', 'r']
  | '\t' => ['\\', 't']
  | c =>
    if c < ' ' then
      ['\\', 'u', '0', '0', hexDigit .lower (c.toNat / 16), hexDigit .lower (c.toNat % 16)]
    else [c]

def writeText (s : String) : List Char :=
  '\"' :: s.toList.flatMap escape ++ ['\"']

def writeMember (member : String × String) : List Char :=
  writeText member.1 ++ ':' :: writeText member.2

/-- The object with these members, in this order. -/
def writeObject (members : List (String × String)) : String :=
  String.ofList ('\x7b' :: [','].intercalate (members.map writeMember) ++ ['\x7d'])

end NodeDiscovery.Json
