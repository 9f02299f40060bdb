import NodeDiscovery.Json.Value

/-! The tokens of a JSON text. -/
namespace NodeDiscovery.Json
open NodeDiscovery.Text (hexValue?)

inductive Token
  | openObject
  | closeObject
  | openArray
  | closeArray
  | colon
  | comma
  /-- A value that is a token of its own. -/
  | scalar (value : Json)

/-- A piece of a text between its quotes: a character, or half of a surrogate pair. -/
inductive Piece
  | char (c : Char)
  | half (unit : Nat)
deriving DecidableEq

/-- The piece that the four digits of a `\u` escape name. -/
def Piece.ofUnit (unit : Nat) : Piece :=
  if 0xd800 ≤ unit ∧ unit < 0xe000 then half unit else char (Char.ofNat unit)

/-- The characters of a text; none if a half has no partner next to it. -/
def joinPieces : List Piece → Option (List Char)
  | [] => some []
  | .char c :: rest => (joinPieces rest).map (c :: ·)
  | .half high :: .half low :: rest =>
    if high < 0xdc00 ∧ 0xdc00 ≤ low then
      (joinPieces rest).map
        (Char.ofNat (0x10000 + (high - 0xd800) * 0x400 + (low - 0xdc00)) :: ·)
    else none
  | .half _ :: _ => none

/-- The unit that four hexadecimal digits stand for. -/
def unit? (a b c d : Char) : Option Nat := do
  return (((← hexValue? a) * 16 + (← hexValue? b)) * 16 + (← hexValue? c)) * 16 + (← hexValue? d)

/-- The character that a one-letter escape stands for. -/
def unescape? : Char → Option Char
  | '\"' => some '\"'
  | '\\' => some '\\'
  | '/' => some '/'
  | 'b' => some '\x08'
  | 'f' => some '\x0c'
  | 'n' => some '\n'
  | 'r' => some '\r'
  | 't' => some '\t'
  | _ => none

/-- Reads a text after its opening quote, with what follows the closing one. Control characters
have to be escaped. -/
def readText : List Char → Option (List Piece × List Char)
  | [] => none
  | '\"' :: rest => some ([], rest)
  | '\\' :: 'u' :: a :: b :: c :: d :: rest => do
    let unit ← unit? a b c d
    let (pieces, rest) ← readText rest
    return (Piece.ofUnit unit :: pieces, rest)
  | '\\' :: c :: rest => do
    let c ← unescape? c
    let (pieces, rest) ← readText rest
    return (.char c :: pieces, rest)
  | c :: rest =>
    if c < ' ' then none
    else do
      let (pieces, rest) ← readText rest
      return (.char c :: pieces, rest)

theorem readText_length {cs rest : List Char} {pieces : List Piece}
    (h : readText cs = some (pieces, rest)) : rest.length < cs.length := by
  fun_induction readText cs generalizing pieces with
  | case1 => cases h
  | case2 r => cases h; simp
  | case3 a b c d r ih =>
    simp only [bind, Option.bind_eq_some_iff, pure, Option.some.injEq, Prod.mk.injEq] at h
    obtain ⟨_, _, ⟨ps, r'⟩, hr, _, rfl⟩ := h
    have := ih hr
    simp only [List.length_cons] at this ⊢; omega
  | case4 c r _ ih =>
    simp only [bind, Option.bind_eq_some_iff, pure, Option.some.injEq, Prod.mk.injEq] at h
    obtain ⟨_, _, ⟨ps, r'⟩, hr, _, rfl⟩ := h
    have := ih hr
    simp only [List.length_cons] at this ⊢; omega
  | case5 => cases h
  | case6 c r _ _ _ _ ih =>
    simp only [bind, Option.bind_eq_some_iff, pure, Option.some.injEq, Prod.mk.injEq] at h
    obtain ⟨⟨ps, r'⟩, hr, _, rfl⟩ := h
    have := ih hr
    simp only [List.length_cons] at this ⊢; omega

def isNumberChar (c : Char) : Bool :=
  c.isDigit || c == '-' || c == '+' || c == '.' || c == 'e' || c == 'E'

/-- Digits without a leading zero. -/
def isWhole (digits : List Char) : Bool :=
  !digits.isEmpty && digits.all Char.isDigit && (digits.length == 1 || digits.head? != some '0')

/-- Nothing, or an exponent. -/
def isExponent : List Char → Bool
  | [] => true
  | e :: rest =>
    let digits := match rest with
      | '+' :: ds => ds
      | '-' :: ds => ds
      | ds => ds
    (e == 'e' || e == 'E') && !digits.isEmpty && digits.all Char.isDigit

/-- Nothing, or a fraction and an exponent. -/
def isTail : List Char → Bool
  | '.' :: rest =>
    !(rest.takeWhile Char.isDigit).isEmpty && isExponent (rest.dropWhile Char.isDigit)
  | rest => isExponent rest

def isNumber (cs : List Char) : Bool :=
  let cs := match cs with
    | '-' :: rest => rest
    | rest => rest
  isWhole (cs.takeWhile Char.isDigit) && isTail (cs.dropWhile Char.isDigit)

def isSpace (c : Char) : Bool := c == ' ' || c == '\t' || c == '\n' || c == '\r'

def punctuation? : Char → Option Token
  | '\x7b' => some .openObject
  | '\x7d' => some .closeObject
  | '[' => some .openArray
  | ']' => some .closeArray
  | ':' => some .colon
  | ',' => some .comma
  | _ => none

def word? (letters : List Char) : Option Token :=
  match String.ofList letters with
  | "null" => some (.scalar .null)
  | "true" => some (.scalar (.bool true))
  | "false" => some (.scalar (.bool false))
  | _ => none

/-- Reads one token at a character that is no space. -/
def readToken (c : Char) (rest : List Char) : Option (Token × List Char) :=
  match punctuation? c with
  | some token => some (token, rest)
  | none =>
    if c = '\"' then do
      let (pieces, rest) ← readText rest
      return (.scalar (.text ((joinPieces pieces).map String.ofList)), rest)
    else if isNumberChar c then
      let literal := c :: rest.takeWhile isNumberChar
      if isNumber literal then
        some (.scalar (.number (String.ofList literal)), rest.dropWhile isNumberChar)
      else none
    else do
      let token ← word? (c :: rest.takeWhile Char.isAlpha)
      return (token, rest.dropWhile Char.isAlpha)

theorem readToken_length {c : Char} {rest rest' : List Char} {token : Token}
    (h : readToken c rest = some (token, rest')) : rest'.length ≤ rest.length := by
  unfold readToken at h
  split at h
  · cases h; exact Nat.le_refl _
  · split at h
    · simp only [bind, Option.bind_eq_some_iff, pure, Option.some.injEq, Prod.mk.injEq] at h
      obtain ⟨⟨ps, r⟩, hr, _, rfl⟩ := h
      exact Nat.le_of_lt (readText_length hr)
    · split at h
      · dsimp only at h
        split at h
        · cases h; exact (List.dropWhile_suffix _).length_le
        · cases h
      · simp only [bind, Option.bind_eq_some_iff, pure, Option.some.injEq, Prod.mk.injEq] at h
        obtain ⟨_, _, _, rfl⟩ := h
        exact (List.dropWhile_suffix _).length_le

/-- The tokens of a text after those in `before`, which come latest first. -/
def tokensFrom (before : List Token) (cs : List Char) : Option (List Token) :=
  match cs with
  | [] => some before.reverse
  | c :: rest =>
    if isSpace c then tokensFrom before rest
    else match _h : readToken c rest with
      | none => none
      | some (token, rest') => tokensFrom (token :: before) rest'
termination_by cs.length
decreasing_by
  · simp
  · have := readToken_length _h
    simp only [List.length_cons]; omega

def tokens (s : String) : Option (List Token) := tokensFrom [] s.toList

end NodeDiscovery.Json
