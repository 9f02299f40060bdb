import NodeDiscovery.Http.Host

/-! Web addresses in their normal form: scheme and host in lower case, no port that the scheme
implies, no dot segments, every character that a path or a query may not hold percent-encoded. -/
namespace NodeDiscovery.Http
open NodeDiscovery.Text

structure Url where
  scheme : List Char
  /-- The host, with a port if there is one. Addresses of other schemes may do without. -/
  authority : Option (List Char)
  path : List Char
  query : Option (List Char)
  fragment : Option (List Char)
deriving DecidableEq, Repr

namespace Url

inductive Fault
  | relative
  | host (fault : Host.Fault)
  | invalidPort
  /-- The address, in full, is for something other than the web. -/
  | unsupportedScheme (address : String)
  /-- The address, in full, has a host that no request can name. -/
  | unsendable (address : String)
deriving DecidableEq, Repr

/-- The path and the query as a server gets them. -/
def target (u : Url) : String :=
  String.ofList (u.path ++ (u.query.map ('?' :: ·)).getD [])

/-- A path that begins like an authority has a dot segment in front of it. -/
def text (u : Url) : String :=
  let start := match u.authority with
    | some authority => '/' :: '/' :: authority
    | none => if ['/', '/'].isPrefixOf u.path then ['/', '.'] else []
  String.ofList (u.scheme ++ ':' :: start) ++ u.target ++
    String.ofList ((u.fragment.map ('#' :: ·)).getD [])

/-- Whether the address names a host. -/
def hasHost (u : Url) : Bool := u.authority.any (· ≠ [])

/-- Adds pairs to the query. -/
def addQuery (u : Url) (pairs : List (String × String)) : Url :=
  let added := Form.encode pairs
  { u with query := some (match u.query with
      | none | some [] => added
      | some old => old ++ '&' :: added) }

def encodeSegment : List Char → List Char :=
  encodeChars [' ', '\"', '#', '<', '>', '?', '`', '\x7b', '\x7d']

def encodeUser : List Char → List Char :=
  encodeChars [' ', '\"', '#', '<', '>', '?', '`', '\x7b', '\x7d', '/', ':', ';', '=', '@', '[',
    '\\', ']', '^', '|']

def encodeQuery (special : Bool) : List Char → List Char :=
  encodeChars ([' ', '\"', '#', '<', '>'] ++ if special then ['\''] else [])

def encodeFragment : List Char → List Char := encodeChars [' ', '\"', '<', '>', '`']

/-- A segment that means the directory itself. -/
def isDot (segment : List Char) : Bool :=
  segment == ['.'] || segment.map Char.toLower == ['%', '2', 'e']

/-- A segment that means the directory above. -/
def isDotDot : List Char → Bool
  | ['.', '.'] => true
  | '.' :: rest => isDot rest && rest.length == 3
  | rest => rest.length ≥ 4 && isDot (rest.take 3) && isDot (rest.drop 3)

/-- The name of a drive, with a colon or a bar. -/
def isDrive : List Char → Bool
  | [c, d] => c.isAlpha && (d == ':' || d == '|')
  | _ => false

/-- Leaves the innermost directory. Drives are not left. -/
def leave (drives : Bool) : List (List Char) → List (List Char)
  | [] => []
  | segment :: above => if drives && isDrive segment then segment :: above else above

/-- Resolves dot segments; `above` holds the directories on the way, the innermost first. A dot
segment at the end leaves an empty last segment. -/
def resolve (drives : Bool) (above : List (List Char)) : List (List Char) → List (List Char)
  | [] => above.reverse
  | [last] =>
    if isDot last then ([] :: above).reverse
    else if isDotDot last then ([] :: leave drives above).reverse
    else (encodeSegment last :: above).reverse
  | segment :: rest =>
    if isDot segment then resolve drives above rest
    else if isDotDot segment then resolve drives (leave drives above) rest
    else resolve drives (encodeSegment segment :: above) rest

/-- The path of some segments. -/
def joinSegments (segments : List (List Char)) : List Char := segments.flatMap ('/' :: ·)

/-- The segments of a path that may begin with a slash. -/
def segments : List Char → List (List Char)
  | '/' :: rest => splitAt '/' rest
  | rest => splitAt '/' rest

/-- A path in normal form. -/
def normalPath (cs : List Char) : List Char := joinSegments (resolve false [] (segments cs))

/-- The path of a file in normal form. The name of a drive gets a colon, and slashes at the
beginning count once. -/
def normalFilePath (cs : List Char) : List Char :=
  let segments := match segments cs with
    | [c, d] :: rest => (if isDrive [c, d] then [c, ':'] else [c, d]) :: rest
    | segments => segments
  let resolved := resolve true [] segments
  let kept := resolved.dropWhile (· = [])
  joinSegments (if kept.isEmpty then [[]] else kept)

def isSchemeChar (c : Char) : Bool := c.isAlphanum || c == '+' || c == '-' || c == '.'

/-- The scheme in lower case, and what follows its colon. -/
def splitScheme? (cs : List Char) : Option (List Char × List Char) :=
  match cs.takeWhile isSchemeChar, cs.dropWhile isSchemeChar with
  | c :: name, ':' :: rest => if c.isAlpha then some ((c :: name).map Char.toLower, rest) else none
  | _, _ => none

/-- The schemes of addresses with a host, and the ports that they imply. -/
def impliedPorts : List (String × Nat) :=
  [("http", 80), ("https", 443), ("ws", 80), ("wss", 443), ("ftp", 21)]

/-- The number of a port, unless there are no digits. -/
def port? (implied : Option Nat) (digits : List Char) : Except Fault (Option Nat) :=
  match readDigits 0x10000 0 digits with
  | .error _ => .error .invalidPort
  | .ok n => .ok (if digits.isEmpty || implied = some n then none else some n)

/-- Cuts a host from the colon of its port. A colon between brackets belongs to the host. -/
def splitHost (inside : Bool) : List Char → List Char × List Char
  | [] => ([], [])
  | c :: rest =>
    if c = ':' && !inside then ([], c :: rest)
    else
      let (host, port) := splitHost (c = '[' || (inside && c ≠ ']')) rest
      (c :: host, port)

/-- The user in front of a host that has to stay, since its name is no text. Otherwise it goes with
the request, not with the address. -/
def keptUser (user : List Char) : List Char :=
  let name := user.takeWhile (· ≠ ':')
  let password := (user.dropWhile (· ≠ ':')).drop 1
  let decodes (cs : List Char) : Bool := isUtf8 (percentDecode (encodeUser cs))
  if decodes name && (name ≠ [] || decodes password) then []
  else encodeUser name ++ (if password.isEmpty then [] else ':' :: encodeUser password) ++ ['@']

/-- The authority in normal form. -/
def normalAuthority (implied : Option Nat) (isWeb : Bool) (cs : List Char) :
    Except Fault (List Char) := do
  let pieces := splitAt '@' cs
  let rest := pieces.getLastD []
  let user := ['@'].intercalate pieces.dropLast
  let (host, port) := splitHost false rest
  if host.isEmpty && (isWeb || port ≠ [] || (1 < pieces.length && user ≠ [':'])) then
    throw (.host .empty)
  let host ← ((if isWeb then Host.normalize else Host.normalizeOpaque) host).mapError .host
  let port ← port? implied (port.drop 1)
  return keptUser user ++ host ++ ((port.map fun n => ':' :: (toString n).toList).getD [])

/-- The host and the path of a file. The host of this machine is not named, and none is where a
drive is. -/
def fileParts (rest : List Char) : Except Fault (List Char × List Char) := do
  match rest with
  | '/' :: '/' :: rest =>
    let host := rest.takeWhile (· ≠ '/')
    if isDrive host then return ([], normalFilePath rest)
    let name ← if host.isEmpty then pure [] else (Host.normalize host).mapError .host
    let path := rest.dropWhile (· ≠ '/')
    let hasDrive := (segments path).head?.any isDrive
    return (if hasDrive || name = "localhost".toList then [] else name, normalFilePath path)
  | rest => return ([], normalFilePath rest)

/-- Reads an address. Control characters and spaces around it, and line breaks and tabs in it, have
no meaning. On the web, and for files, backslashes count as slashes. -/
def parse (s : String) : Except Fault Url := do
  let cs := (s.toList.dropWhile (· ≤ ' ')).reverse.dropWhile (· ≤ ' ') |>.reverse
  let cs := cs.filter fun c => c ≠ '\t' ∧ c ≠ '\n' ∧ c ≠ '\r'
  match splitScheme? cs with
  | none => throw .relative
  | some (scheme, rest) =>
    let implied := impliedPorts.lookup (String.ofList scheme)
    let isFile := scheme = "file".toList
    let isSpecial := implied.isSome || isFile
    let (rest, fragment) := (rest.takeWhile (· ≠ '#'), rest.dropWhile (· ≠ '#'))
    let (rest, query) := (rest.takeWhile (· ≠ '?'), rest.dropWhile (· ≠ '?'))
    let query := if query.isEmpty then none else some (encodeQuery isSpecial (query.drop 1))
    let fragment := if fragment.isEmpty then none else some (encodeFragment (fragment.drop 1))
    let rest := if isSpecial then rest.map fun c => if c = '\\' then '/' else c else rest
    if isFile then
      let (host, path) ← fileParts rest
      return ⟨scheme, some host, path, query, fragment⟩
    else if isSpecial then
      let rest := rest.dropWhile (· = '/')
      let authority ← normalAuthority implied true (rest.takeWhile (· ≠ '/'))
      return ⟨scheme, some authority, normalPath (rest.dropWhile (· ≠ '/')), query, fragment⟩
    else match rest with
      | '/' :: '/' :: rest =>
        let authority ← normalAuthority none false (rest.takeWhile (· ≠ '/'))
        let path := rest.dropWhile (· ≠ '/')
        let path := if path.isEmpty then [] else normalPath path
        return ⟨scheme, some authority, path, query, fragment⟩
      | '/' :: rest => return ⟨scheme, none, normalPath rest, query, fragment⟩
      | rest => return ⟨scheme, none, encodeChars [] rest, query, fragment⟩

/-- The address, if it can be asked for: it is one of the web, and its host one that requests
name. -/
def sendable (u : Url) : Except Fault Url :=
  if u.scheme ≠ "http".toList && u.scheme ≠ "https".toList then
    .error (.unsupportedScheme u.text)
  else if (u.authority.getD []).any fun c => c ∈ ['\"', '`', '\x7b', '\x7d'] then
    .error (.unsendable u.text)
  else .ok u

end Url
end NodeDiscovery.Http
