import NodeDiscovery.Text.Blank
import NodeDiscovery.Config.SyntaxError

/-! The tokens of a configuration text: bare words and quoted texts. Each reader returns what it
leaves unread, which is shorter than what it was given. -/
namespace NodeDiscovery.Config
open NodeDiscovery.Text

/-- How the reading of a quoted text ends, the opening quote being read already. -/
inductive QuotedText
  /-- It is closed, and `rest` follows the closing quote. -/
  | closed (text rest : List Char)
  /-- The input ends inside the quotes. -/
  | unbalanced (text : List Char)
  /-- The input ends right after a backslash. -/
  | unterminated (text : List Char)
deriving DecidableEq, Repr

/-- Puts a character in front of the text read. -/
def QuotedText.push (c : Char) : QuotedText → QuotedText
  | closed text rest => closed (c :: text) rest
  | unbalanced text => unbalanced (c :: text)
  | unterminated text => unterminated (c :: text)

/-- Reads up to the first quote that no backslash stands before; a character after a backslash
stands for itself. -/
def readQuoted : List Char → QuotedText
  | [] => .unbalanced []
  | '\"' :: rest => .closed [] rest
  | ['\\'] => .unterminated []
  | '\\' :: c :: rest => (readQuoted rest).push c
  | c :: rest => (readQuoted rest).push c

theorem QuotedText.push_eq_closed {q : QuotedText} {c : Char} {text rest : List Char}
    (h : q.push c = .closed text rest) : ∃ t, q = .closed t rest ∧ text = c :: t := by
  cases q <;> simp_all [push]

theorem readQuoted_length {cs text rest : List Char} (h : readQuoted cs = .closed text rest) :
    text.length + rest.length + 1 ≤ cs.length := by
  fun_induction readQuoted cs generalizing text with
  | case1 => cases h
  | case2 r => cases h; simp
  | case3 => cases h
  | case4 c r ih =>
    obtain ⟨t, ht, rfl⟩ := QuotedText.push_eq_closed h
    have := ih ht
    simp only [List.length_cons]; omega
  | case5 c r _ _ _ ih =>
    obtain ⟨t, ht, rfl⟩ := QuotedText.push_eq_closed h
    have := ih ht
    simp only [List.length_cons]; omega

/-- The characters of a bare key. -/
def isKeyChar (c : Char) : Bool := !isBlank c && c != '=' && c != '\"'

/-- The part of an unfinished quoted key that is surely not text of another option. -/
def keyStem (text : List Char) : List Char := text.takeWhile fun c => !isBlank c && c != '='

def readKey : List Char → Except SyntaxError (String × List Char)
  | '\"' :: cs =>
    match readQuoted cs with
    | .closed text rest => .ok (String.ofList text, rest)
    | .unbalanced text => .error (.unbalancedQuotes (String.ofList (keyStem text)))
    | .unterminated text => .error (.unterminatedEscape (String.ofList (keyStem text)))
  | cs =>
    match cs.takeWhile isKeyChar with
    | [] => .error .missingKey
    | word => .ok (String.ofList word, cs.dropWhile isKeyChar)

theorem readKey_length {cs rest : List Char} {key : String} (h : readKey cs = .ok (key, rest)) :
    rest.length < cs.length := by
  unfold readKey at h
  split at h
  · split at h
    · next hq =>
      cases h
      have := readQuoted_length hq
      simp only [List.length_cons]; omega
    · cases h
    · cases h
  · split at h
    · cases h
    · next cs' _ hw =>
      cases h
      have hlen := congrArg List.length (List.takeWhile_append_dropWhile (p := isKeyChar) (l := cs))
      have : 0 < (cs.takeWhile isKeyChar).length := List.length_pos_iff.2 (by simpa using hw)
      rw [List.length_append] at hlen; omega

/-- Reads the value of `key`. A bare value holds no equals sign. After blanks (`spaced`) a word with
one is the next option, so the value is missing; without, quotes are missing around it. -/
def readValue (key : String) (spaced : Bool) : List Char → Except SyntaxError (String × List Char)
  | [] => .error (.missingValue key)
  | '\"' :: cs =>
    match readQuoted cs with
    | .closed text rest => .ok (String.ofList text, rest)
    | .unbalanced _ => .error (.unbalancedQuotes key)
    | .unterminated _ => .error (.unterminatedEscape key)
  | cs =>
    let word := cs.takeWhile (!isBlank ·)
    if '=' ∈ word then
      .error (if spaced then .missingValue key else .unquotedEquals key)
    else .ok (String.ofList word, cs.dropWhile (!isBlank ·))

theorem readValue_length {key value : String} {spaced : Bool} {cs rest : List Char}
    (h : readValue key spaced cs = .ok (value, rest)) : rest.length ≤ cs.length := by
  unfold readValue at h
  split at h
  · cases h
  · split at h
    · next hq =>
      cases h
      have := readQuoted_length hq
      simp only [List.length_cons]; omega
    · cases h
    · cases h
  · dsimp only at h
    split at h
    · cases h
    · cases h; exact (List.dropWhile_suffix _).length_le

/-- Whether a bare word would not be read back as it is. -/
def needsQuotes (token : List Char) : Bool :=
  token.isEmpty || token.any fun c => isBlank c || c == '=' || c == '\"'

/-- A character inside quotes. -/
def escape (c : Char) : List Char :=
  if c = '\"' ∨ c = '\\' then ['\\', c] else [c]

/-- A token as it is written, in quotes only if it needs them. -/
def writeToken (token : List Char) : List Char :=
  if needsQuotes token then '\"' :: token.flatMap escape ++ ['\"'] else token

end NodeDiscovery.Config
